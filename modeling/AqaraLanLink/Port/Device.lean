import AqaraLanLink.Json
import Mathlib.Algebra.Order.Round
import Mathlib.Data.Rat.Floor
import Mathlib.Data.List.Nodup

/-!
# The port's device object

`src/catalogue.js` and `src/device.js`: the traits of a model by code, the last value seen for each
code, and the listeners that HomeKit and Matter attach to the device.
-/

namespace AqaraLanLink
namespace Port

/-! ## The catalogue -/

/-- What the catalogue says about a trait, as far as the device reads it. -/
structure TraitSpec where
  /-- `trait_code`. -/
  traitCode : Option String
  /-- Whether `writable` is exactly true. -/
  writable : Bool
  /-- `min_value`, when it is a number. -/
  minValue : Option ℚ
  /-- `max_value`, when it is a number. -/
  maxValue : Option ℚ
  /-- `data_type`. -/
  dataType : Option String
  deriving DecidableEq, Repr

/-- A trait of a device: its wire path and its description. -/
structure Trait where
  /-- The wire path `<endpoint>.<service>.<resource>`. -/
  path : String
  /-- What the catalogue says about it. -/
  spec : TraitSpec
  deriving DecidableEq, Repr

/-- One turn of the loop of `capabilities`.  Where a code comes more than once the first is kept. -/
def addCapability (found : List (String × Trait)) (path : String) (spec : TraitSpec) :
    List (String × Trait) :=
  match spec.traitCode with
  | some code =>
      if code ≠ "" ∧ (found.lookup code).isNone then found ++ [(code, ⟨path, spec⟩)] else found
  | none => found

/-- The traits of a device by code. -/
structure Capabilities where
  /-- The entries of the map, in the order in which it lists them. -/
  entries : List (String × Trait)
  /-- A code comes once. -/
  codes_nodup : (entries.map Prod.fst).Nodup
  /-- So does a wire path, which is the key of its trait in the catalogue. -/
  paths_nodup : (entries.map fun entry => entry.2.path).Nodup

theorem addCapability_eq (found : List (String × Trait)) (path : String) (spec : TraitSpec) :
    addCapability found path spec = found ∨
      ∃ code, found.lookup code = none ∧
        addCapability found path spec = found ++ [(code, ⟨path, spec⟩)] := by
  unfold addCapability
  split
  · rename_i code _
    split
    · rename_i added
      exact Or.inr ⟨code, Option.isNone_iff_eq_none.mp added.2, rfl⟩
    · exact Or.inl rfl
  · exact Or.inl rfl

namespace Capabilities

/-- Nothing is known yet. -/
def empty : Capabilities := ⟨[], List.nodup_nil, List.nodup_nil⟩

/-- Add a trait whose path is new. -/
def add (found : Capabilities) (path : String) (spec : TraitSpec)
    (fresh : path ∉ found.entries.map fun entry => entry.2.path) : Capabilities where
  entries := addCapability found.entries path spec
  codes_nodup := by
    rcases addCapability_eq found.entries path spec with same | ⟨code, absent, added⟩
    · rw [same]
      exact found.codes_nodup
    · rw [added, List.map_append, List.map_singleton, ← List.concat_eq_append]
      refine found.codes_nodup.concat fun member => ?_
      obtain ⟨entry, inside, rfl⟩ := List.mem_map.mp member
      exact absurd (List.lookup_eq_none_iff.mp absent entry inside) (by simp)
  paths_nodup := by
    rcases addCapability_eq found.entries path spec with same | ⟨code, -, added⟩
    · rw [same]
      exact found.paths_nodup
    · rw [added, List.map_append, List.map_singleton, ← List.concat_eq_append]
      exact found.paths_nodup.concat fresh

theorem mem_paths_add {found : Capabilities} {path other : String} {spec : TraitSpec}
    (fresh : path ∉ found.entries.map fun entry => entry.2.path)
    (member : other ∈ (found.add path spec fresh).entries.map fun entry => entry.2.path) :
    other ∈ (found.entries.map fun entry => entry.2.path) ∨ other = path := by
  change other ∈ (addCapability found.entries path spec).map fun entry => entry.2.path at member
  rcases addCapability_eq found.entries path spec with same | ⟨code, -, added⟩
  · rw [same] at member
    exact Or.inl member
  · rw [added, List.map_append, List.mem_append, List.map_singleton,
      List.mem_singleton] at member
    exact member

end Capabilities

/-- The loop of `capabilities` over the traits that are left. -/
def capabilitiesLoop : (traitsOf : List (String × TraitSpec)) → (found : Capabilities) →
    (traitsOf.map Prod.fst).Nodup →
    (∀ path ∈ traitsOf.map Prod.fst, path ∉ found.entries.map fun entry => entry.2.path) →
    Capabilities
  | [], found, _, _ => found
  | (path, spec) :: traitsOf, found, distinct, fresh =>
      capabilitiesLoop traitsOf (found.add path spec (fresh path List.mem_cons_self))
        (List.nodup_cons.mp distinct).2 fun other member known =>
          (Capabilities.mem_paths_add (fresh path List.mem_cons_self) known).elim
            (fresh other (List.mem_cons_of_mem _ member))
            fun same => (List.nodup_cons.mp distinct).1 (same ▸ member)

/-- The traits of a model by code; the wire paths, which are the keys of its catalogue entry, are
distinct. -/
def capabilities (traitsOf : List (String × TraitSpec))
    (distinct : (traitsOf.map Prod.fst).Nodup) : Capabilities :=
  capabilitiesLoop traitsOf .empty distinct fun _ _ => List.not_mem_nil

/-! ## The device -/

/-- Who listens to the `changed` event of a device. -/
inductive Listener where
  /-- `HomeKitAccessory.push`, which guards every characteristic with a `try`. -/
  | push
  /-- The press listener of `HomeKitAccessory.button`. -/
  | button
  /-- `MatterTwin.report`. -/
  | matter
  deriving DecidableEq, Repr

/-- The fields of `AqaraDevice` that reports and commands use. -/
structure AqaraDevice where
  /-- The device id, as the hub knows it. -/
  deviceId : String
  /-- The model string. -/
  model : String
  /-- Whether there is a hub to ask. -/
  hasHub : Bool
  /-- The traits by code. -/
  capabilities : Capabilities
  /-- The last value seen for each code. -/
  state : String → Option Json
  /-- The `changed` listeners in the order in which they were attached. -/
  listeners : List Listener
  /-- How deeply the arrays in a value may be nested before `Number` fills the stack. -/
  levels : ℕ

namespace AqaraDevice

/-- Whether the device has a trait at all. -/
def can (device : AqaraDevice) (code : String) : Bool :=
  (device.capabilities.entries.lookup code).isSome

/-- The trait code a wire path belongs to. -/
def codeFor (device : AqaraDevice) (path : String) : Option String :=
  (device.capabilities.entries.find? fun entry => entry.2.path == path).map Prod.fst

/-- The codes whose values `MatterTwin.state` converts with `Number`. -/
def matterNumbers : List String :=
  ["CurrentLevel", "ColorTemperature", "CurrentTemperature", "CurrentHumidity"]

/-- A wire path belongs to the code that has it in the catalogue, and to no other. -/
theorem codeFor_eq_some_iff {device : AqaraDevice} {path code : String} :
    device.codeFor path = some code ↔
      ∃ spec, (code, ⟨path, spec⟩) ∈ device.capabilities.entries := by
  constructor
  · intro found
    simp only [codeFor, Option.map_eq_some_iff] at found
    obtain ⟨⟨code', trait⟩, search, rfl⟩ := found
    have inside := List.mem_of_find?_eq_some search
    have same := List.find?_some search
    simp only [beq_iff_eq] at same
    subst same
    exact ⟨trait.spec, inside⟩
  · rintro ⟨spec, inside⟩
    have distinct := device.capabilities.paths_nodup
    have unique : ∀ entry ∈ device.capabilities.entries,
        entry.2.path = path → entry = (code, ⟨path, spec⟩) := fun entry member same =>
      List.inj_on_of_nodup_map distinct member inside same
    rw [codeFor]
    cases search : device.capabilities.entries.find? fun entry => entry.2.path == path with
    | none =>
        have absent := List.find?_eq_none.mp search _ inside
        simp at absent
    | some entry =>
        have same := List.find?_some search
        rw [unique entry (List.mem_of_find?_eq_some search) (beq_iff_eq.mp same)]
        rfl

/-- The calls of `Number` in `MatterTwin.state`, as far as they can throw. -/
def matterConversions (device : AqaraDevice) : Except String Unit :=
  matterNumbers.forM fun number =>
    match device.state number with
    | some held => if device.can number then held.toPrimitive device.levels else .ok ()
    | none => .ok ()

/-- Run one `changed` listener, as far as it can throw. -/
def runListener (device : AqaraDevice) (code : String) (value : Json) :
    Listener → Except String Unit
  | .push => .ok ()
  | .button => if code ≠ "ButtonEvent" then .ok () else value.toPrimitive device.levels
  | .matter => device.matterConversions

/-- `state.set(code, value)`. -/
def setState (device : AqaraDevice) (code : String) (value : Json) : AqaraDevice :=
  { device with state := Function.update device.state code (some value) }

/-- Whether the device already has exactly this value. -/
def has (device : AqaraDevice) (code : String) (value : Json) : Bool :=
  (device.state code).any fun known => known.strictEq value

/-- Keep a value and announce it, unless it is no news. -/
def record (device : AqaraDevice) (code : String) (value : Json) :
    Except String (AqaraDevice × Bool) :=
  if device.has code value then .ok (device, false)
  else do
    let device := device.setState code value
    device.listeners.forM (device.runListener code value)
    pure (device, true)

/-- The loop of `report`. -/
def reportLoop (device : AqaraDevice) :
    List (String × Json) → Except String (AqaraDevice × List String)
  | [] => .ok (device, [])
  | (path, value) :: entries =>
      match device.codeFor path with
      | none => reportLoop device entries
      | some code => do
          let (device, news) ← device.record code value
          let (device, changed) ← reportLoop device entries
          pure (device, if news then code :: changed else changed)

/-- Take in what the hub says about this device. -/
def report (device : AqaraDevice) (values : Json) : Except String (AqaraDevice × List String) :=
  device.reportLoop values.entries

/-- What someone asked for, within what the device will take. -/
def clamp (spec : TraitSpec) : Json → Json
  | .number value =>
      let capped := match spec.maxValue with
        | some high => min high value
        | none => value
      let within := match spec.minValue with
        | some low => max low capped
        | none => capped
      -- Math.round rounds halves up
      if spec.dataType = some "int" ∨ spec.dataType = some "enum" then
        .number ⌊within + 1 / 2⌋
      else .number within
  | value => value

/-- The write that `set` asks of the hub: the device id, and the value by wire path. -/
def setRequest (device : AqaraDevice) (code : String) (value : Json) :
    Option (String × List (String × Json)) :=
  match device.capabilities.entries.lookup code with
  | none => none
  | some trait =>
      if trait.spec.writable ∧ device.hasHub then
        some (device.deviceId, [(trait.path, clamp trait.spec value)])
      else none

/-- How a call of `set` ends, and what it has done by then. -/
structure SetResult where
  /-- The device. -/
  device : AqaraDevice
  /-- The `changed` events of the call. -/
  announced : List (String × Json)
  /-- What the promise resolves with, or what it is rejected with. -/
  outcome : Except String Bool

/-- `set` after its `await`: the value is recorded, and a listener that throws rejects the promise. -/
def afterWrite (device : AqaraDevice) (code : String) (clamped : Json) : SetResult :=
  if device.has code clamped then ⟨device, [], .ok true⟩
  else
    let device := device.setState code clamped
    ⟨device, [(code, clamped)], do
      device.listeners.forM (device.runListener code clamped)
      pure true⟩

/-- `set`, on the device as it is when the write has settled. -/
def set (device : AqaraDevice) (code : String) (value : Json) (written : Except String Json) :
    SetResult :=
  match device.capabilities.entries.lookup code with
  | none => ⟨device, [], .ok false⟩
  | some trait =>
      if trait.spec.writable ∧ device.hasHub then
        match written with
        | .ok _ => device.afterWrite code (clamp trait.spec value)
        | .error error => ⟨device, [], .error error⟩
      else ⟨device, [], .ok false⟩

/-- What `HomeKitAccessory.build` attaches: a button only when the device is nothing else. -/
def homekitListeners (device : AqaraDevice) : List Listener :=
  if device.can "OnOff" || device.can "CurrentTemperature" || device.can "CurrentHumidity" ||
      device.can "ContactSensorState" then [.push]
  else if device.can "ButtonEvent" then [.button, .push]
  else []

/-- `MatterTwin.supported`. -/
def matterSupported (device : AqaraDevice) : Bool :=
  device.can "OnOff" || device.can "ContactSensorState" || device.can "CurrentTemperature" ||
    device.can "CurrentHumidity"

end AqaraDevice

/-- The catalogue entry of a lamp that can be switched and dimmed. -/
def lampTraits : List (String × TraitSpec) :=
  [("2.132.32920", ⟨some "OnOff", true, none, none, some "bool"⟩),
    ("2.133.32923", ⟨some "CurrentLevel", true, some 1, some 100, some "float"⟩)]

/-- The lamp as a child of the hub. -/
def lamp : AqaraDevice where
  deviceId := "lumi.lamp"
  model := "lumi.light.acn003"
  hasHub := true
  capabilities := capabilities lampTraits (by decide)
  state := fun _ => none
  listeners := []
  levels := 4000

end Port
end AqaraLanLink
