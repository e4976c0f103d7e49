import Mathlib.Data.List.Infix
import AqaraLanLink.Library.Runs
import AqaraLanLink.Port.LastWord

/-!
# Publishing again

`publish` after every connect, with what HomeKit and Matter have been given by earlier ones, as a
labelled transition system.  Devices are objects: an identifier names the object, and the maps, the
handlers and the calls that wait refer to it.
-/

namespace AqaraLanLink
namespace Port
namespace Publication

open Library

/-! ## The platform -/

/-- What `publish` reads of an entry of the inventory. -/
structure Entry where
  /-- `did`. -/
  did : String
  /-- `model`. -/
  model : String
  /-- `parentDeviceId`. -/
  parentDeviceId : String
  deriving DecidableEq

/-- `NOT_LOCAL`. -/
def notLocal : List String := [".camera.", ".remote.", ".ir."]

/-- Whether an entry is a local device of the hub. -/
def Entry.wanted (entry : Entry) (hub : String) : Bool :=
  entry.parentDeviceId = hub && entry.did ≠ "" && entry.model ≠ "" &&
    notLocal.all fun pattern => !decide (pattern.toList <:+: entry.model.toList)

/-- A HomeKit characteristic whose handlers `bind` sets. -/
inductive Characteristic where
  | lightbulbOn
  | brightness
  | colorTemperature
  | switchOn
  | currentTemperature
  | currentRelativeHumidity
  | contactSensorState
  | statusLowBattery
  | batteryLevel
  deriving DecidableEq, Repr

/-- `light`, `outlet`, `sensors`, `contact` and `button`: the first that builds something decides. -/
def mainCharacteristics (device : AqaraDevice) : List Characteristic :=
  if device.can "OnOff" && device.can "CurrentLevel" then
    [.lightbulbOn, .brightness] ++
      if device.can "ColorTemperature" then [.colorTemperature] else []
  else if device.can "OnOff" then [.switchOn]
  else if device.can "CurrentTemperature" || device.can "CurrentHumidity" then
    (if device.can "CurrentTemperature" then [.currentTemperature] else []) ++
      if device.can "CurrentHumidity" then [.currentRelativeHumidity] else []
  else if device.can "ContactSensorState" then [.contactSensorState]
  else []

/-- The characteristics that `HomeKitAccessory.build` binds to the device. -/
def characteristics (device : AqaraDevice) : List Characteristic :=
  if device.homekitListeners.isEmpty then []
  else
    mainCharacteristics device ++
      if device.can "StateOfLowBat" then [.statusLowBattery, .batteryLevel] else []

/-- What a platform is built with. -/
structure Settings where
  /-- `capabilities(model)`. -/
  catalogue : String → Capabilities
  /-- Whether Matter is enabled and available. -/
  matter : Bool
  /-- How deeply the arrays in a value may be nested. -/
  levels : ℕ

/-- A call of `set` that waits for its write. -/
structure Call where
  /-- Which call it is. -/
  ticket : ℕ
  /-- The device object. -/
  object : ℕ
  /-- The trait. -/
  code : String
  /-- The clamped value. -/
  value : Json

/-- A platform with its device objects, what HomeKit and Matter hold, and the history of traits. -/
structure Runtime where
  /-- The device objects. -/
  objects : ℕ → Option AqaraDevice
  /-- How many have been created. -/
  created : ℕ
  /-- `this.devices`, by device id. -/
  devices : String → Option ℕ
  /-- The object behind each characteristic of the accessory of a device id. -/
  handlers : String → Characteristic → Option ℕ
  /-- The Matter registrations, each with its device id and the object behind its handlers. -/
  registrations : List (String × ℕ)
  /-- The calls that wait. -/
  calls : List Call
  /-- How many calls there have been. -/
  tickets : ℕ
  /-- What reports and accepted writes have made of each trait of a device id. -/
  known : String → String → Option Json

/-- What happens. -/
inductive Label where
  /-- A connect gets as far as `publish`. -/
  | publish (hub : String) (inventory : List Entry)
  /-- The hub sends a message on its own. -/
  | message (message : Json)
  /-- A handler of HomeKit or Matter sets a trait of the object it is bound to. -/
  | set (object : ℕ) (code : String) (value : Json)
  /-- The hub answers the write of a call. -/
  | answered (call : Call) (reply : Json)
  /-- The write of a call times out, or its tunnel drops. -/
  | failed (call : Call)
  /-- A Matter registration resolves, and its twin listens to the object. -/
  | registered (entry : String × ℕ)

/-! ## Publishing -/

/-- `new AqaraDevice`. -/
def newDevice (settings : Settings) (entry : Entry) : AqaraDevice where
  deviceId := entry.did
  model := entry.model
  hasHub := true
  capabilities := settings.catalogue entry.model
  state := fun _ => none
  listeners := []
  levels := settings.levels

/-- `addToHomeKit`: handlers replace those that a characteristic had. -/
def Runtime.addToHomeKit (runtime : Runtime) (object : ℕ) (device : AqaraDevice) : Runtime :=
  { runtime with
    objects := Function.update runtime.objects object
      (some { device with listeners := device.homekitListeners })
    handlers := fun did characteristic =>
      if did = device.deviceId ∧ characteristic ∈ characteristics device then some object
      else runtime.handlers did characteristic }

/-- `addToMatter`. -/
def Runtime.addToMatter (settings : Settings) (runtime : Runtime) (object : ℕ)
    (device : AqaraDevice) : Runtime :=
  if settings.matter && device.matterSupported then
    { runtime with registrations := runtime.registrations ++ [(device.deviceId, object)] }
  else runtime

/-- One turn of the loop of `publish`. -/
def Runtime.publishEntry (settings : Settings) (runtime : Runtime) (entry : Entry) : Runtime :=
  let device := newDevice settings entry
  if device.capabilities.entries.isEmpty then runtime
  else
    let object := runtime.created
    let added :=
      { runtime with
        created := object + 1
        devices := Function.update runtime.devices entry.did (some object) }
    (added.addToHomeKit object device).addToMatter settings object device

/-- `publish`. -/
def Runtime.publish (settings : Settings) (runtime : Runtime) (hub : String)
    (inventory : List Entry) : Runtime :=
  (inventory.filter fun entry => entry.wanted hub).foldl (Runtime.publishEntry settings) runtime

/-! ## Reports and commands -/

/-- The device that a message reports for, and its values by wire path. -/
def reportOf (message : Json) : Option (String × Json) :=
  if Platform.isReport message then
    let data := Json.coalesce (message.get? "data") (.object [])
    match data.get? "did" with
    | some (.string did) => some (did, Platform.attrsOf data)
    | _ => none
  else none

/-- `onMessage`; the history follows what is reported for a published device. -/
def Runtime.onMessage (runtime : Runtime) (message : Json) : Except String Runtime :=
  match reportOf message with
  | none => .ok runtime
  | some (did, attrs) =>
      match (runtime.devices did).bind fun object =>
        (runtime.objects object).map fun device => (object, device) with
      | none => .ok runtime
      | some (object, device) => do
          let (reported, _) ← device.report attrs
          pure
            { runtime with
              objects := Function.update runtime.objects object (some reported)
              known := Function.update runtime.known did fun code =>
                Json.lastValue (fun path => device.codeFor path = some code) attrs.entries
                  (runtime.known did code) }

/-- `set` up to its `await`. -/
def Runtime.set (runtime : Runtime) (object : ℕ) (code : String) (value : Json) : Runtime :=
  match (runtime.objects object).bind fun device => device.setRequest code value with
  | some (_, [(_, clamped)]) =>
      { runtime with
        calls := runtime.calls ++ [⟨runtime.tickets, object, code, clamped⟩]
        tickets := runtime.tickets + 1 }
  | _ => runtime

/-- A call is over. -/
def Runtime.finish (runtime : Runtime) (call : Call) : Runtime :=
  { runtime with calls := runtime.calls.filter fun other => other.ticket ≠ call.ticket }

/-- `set` after its `await`; the history follows a write that the hub accepts. -/
def Runtime.answered (runtime : Runtime) (call : Call) (reply : Json) : Runtime :=
  match runtime.objects call.object with
  | none => runtime
  | some device =>
      { runtime.finish call with
        objects := Function.update runtime.objects call.object
          (some (device.afterWrite call.code call.value).device)
        known :=
          if LastWord.acknowledges reply then
            Function.update runtime.known device.deviceId
              (Function.update (runtime.known device.deviceId) call.code (some call.value))
          else runtime.known }

/-- `device.on('changed', () => twin.report())`. -/
def Runtime.registered (runtime : Runtime) (object : ℕ) : Runtime :=
  match runtime.objects object with
  | none => runtime
  | some device =>
      { runtime with
        objects := Function.update runtime.objects object
          (some { device with listeners := device.listeners ++ [.matter] }) }

/-- Something that HomeKit or Matter holds is bound to the object. -/
def Bound (runtime : Runtime) (object : ℕ) : Prop :=
  (∃ did characteristic, runtime.handlers did characteristic = some object) ∨
    ∃ did, (did, object) ∈ runtime.registrations

/-- When a label is possible. -/
def Possible (runtime : Runtime) : Label → Prop
  | .set object _ _ => Bound runtime object
  | .answered call _ | .failed call => call ∈ runtime.calls
  | .registered entry => entry ∈ runtime.registrations
  | _ => True

/-- What a label does; a listener that throws in a report ends the process. -/
def perform (settings : Settings) (runtime : Runtime) : Label → Except String Runtime
  | .publish hub inventory => .ok (runtime.publish settings hub inventory)
  | .message message => runtime.onMessage message
  | .set object code value => .ok (runtime.set object code value)
  | .answered call reply => .ok (runtime.answered call reply)
  | .failed call => .ok (runtime.finish call)
  | .registered entry => .ok (runtime.registered entry.2)

/-- The platform from its construction on. -/
def machine (settings : Settings) : Machine Runtime Label where
  initial runtime := runtime.objects = (fun _ => none) ∧ runtime.devices = (fun _ => none) ∧
    runtime.handlers = (fun _ _ => none) ∧ runtime.registrations = [] ∧ runtime.calls = [] ∧
    runtime.known = fun _ _ => none
  step runtime label next := Possible runtime label ∧ perform settings runtime label = .ok next

/-! ## One object for each device -/

/-- Something still refers to the object. -/
def Live (runtime : Runtime) (object : ℕ) : Prop :=
  (∃ did, runtime.devices did = some object) ∨ Bound runtime object ∨
    ∃ call ∈ runtime.calls, call.object = object

/-- There is one object for each device, and it keeps what is known. -/
structure OneObject (runtime : Runtime) : Prop where
  /-- A device id has at most one live object. -/
  single : ∀ first second a b, Live runtime first → Live runtime second →
    runtime.objects first = some a → runtime.objects second = some b → a.deviceId = b.deviceId →
      first = second
  /-- The object holds what reports and accepted writes have made of each trait. -/
  survives : ∀ did object device, runtime.devices did = some object →
    runtime.objects object = some device → ∀ code, device.state code = runtime.known did code
  /-- Every characteristic of an accessory is bound to it. -/
  homekit : ∀ did characteristic object, runtime.handlers did characteristic = some object →
    runtime.devices did = some object
  /-- So is every Matter accessory. -/
  matter : ∀ did object, (did, object) ∈ runtime.registrations → runtime.devices did = some object
  /-- A Matter accessory is registered at most once. -/
  once : (runtime.registrations.map Prod.fst).Nodup

/-- Publishing the entry leaves no older object behind: its device id has not been published; or
nothing is known of it, no call waits, it has no Matter accessory, and every characteristic that it
has in HomeKit is bound anew. -/
def Renewable (settings : Settings) (runtime : Runtime) (entry : Entry) : Prop :=
  runtime.devices entry.did = none ∨
    (∀ code, runtime.known entry.did code = none) ∧
      (∀ call ∈ runtime.calls, runtime.devices entry.did ≠ some call.object) ∧
      (∀ object, (entry.did, object) ∉ runtime.registrations) ∧
      ∀ characteristic, (runtime.handlers entry.did characteristic).isSome →
        characteristic ∈ characteristics (newDevice settings entry)

/-- The entries that get a device. -/
def published (settings : Settings) (hub : String) (inventory : List Entry) : List Entry :=
  inventory.filter fun entry =>
    entry.wanted hub && !(settings.catalogue entry.model).entries.isEmpty

/-- An inventory names each device that it publishes once, and they are renewable; a write that is
answered is accepted. -/
def Renewing (settings : Settings) (runtime : Runtime) : Label → Prop
  | .publish hub inventory =>
      ((published settings hub inventory).map Entry.did).Nodup ∧
        ∀ entry ∈ published settings hub inventory, Renewable settings runtime entry
  | .answered _ reply => LastWord.acknowledges reply = true
  | _ => True

/-! ## What a run preserves -/

/-- What holds in every state of a renewing run. -/
structure Invariant (runtime : Runtime) : Prop where
  fresh : ∀ object, runtime.created ≤ object → runtime.objects object = none
  published : ∀ did object, runtime.devices did = some object → ∃ device,
    runtime.objects object = some device ∧ device.deviceId = did ∧
      ∀ code, device.state code = runtime.known did code
  unknown : ∀ did, runtime.devices did = none → ∀ code, runtime.known did code = none
  homekit : ∀ did characteristic object, runtime.handlers did characteristic = some object →
    runtime.devices did = some object
  matter : ∀ did object, (did, object) ∈ runtime.registrations → runtime.devices did = some object
  once : (runtime.registrations.map Prod.fst).Nodup
  /-- A call waits for a published object. -/
  calls : ∀ call ∈ runtime.calls, ∃ did, runtime.devices did = some call.object

variable {settings : Settings} {runtime : Runtime}

theorem Invariant.devices_of_bound (invariant : Invariant runtime) {object : ℕ}
    (bound : Bound runtime object) : ∃ did, runtime.devices did = some object := by
  rcases bound with ⟨did, characteristic, handled⟩ | ⟨did, registered⟩
  · exact ⟨did, invariant.homekit did characteristic object handled⟩
  · exact ⟨did, invariant.matter did object registered⟩

theorem Invariant.devices_of_live (invariant : Invariant runtime) {object : ℕ}
    (live : Live runtime object) : ∃ did, runtime.devices did = some object := by
  rcases live with published | bound | ⟨call, waits, same⟩
  · exact published
  · exact invariant.devices_of_bound bound
  · exact same ▸ invariant.calls call waits

/-- A live object is the one published under its own device id. -/
theorem Invariant.devices_of_objects (invariant : Invariant runtime) {object : ℕ}
    {device : AqaraDevice} (live : Live runtime object)
    (found : runtime.objects object = some device) :
    runtime.devices device.deviceId = some object := by
  obtain ⟨did, published⟩ := invariant.devices_of_live live
  obtain ⟨device', found', same, -⟩ := invariant.published did object published
  obtain rfl := Option.some.inj (found.symm.trans found')
  rw [same, published]

theorem Invariant.oneObject (invariant : Invariant runtime) : OneObject runtime where
  single first second a b one two found found' same := by
    have firstly := invariant.devices_of_objects one found
    rw [same, invariant.devices_of_objects two found'] at firstly
    exact (Option.some.inj firstly).symm
  survives did object device published found := by
    obtain ⟨device', found', -, states⟩ := invariant.published did object published
    obtain rfl := Option.some.inj (found.symm.trans found')
    exact states
  homekit := invariant.homekit
  matter := invariant.matter
  once := invariant.once

/-- Publishing an entry: a new object takes its place in the maps. -/
theorem publishEntry_eq {entry : Entry}
    (described : (settings.catalogue entry.model).entries.isEmpty = false) :
    runtime.publishEntry settings entry =
      { runtime with
        objects := Function.update runtime.objects runtime.created
          (some { newDevice settings entry with
            listeners := (newDevice settings entry).homekitListeners })
        created := runtime.created + 1
        devices := Function.update runtime.devices entry.did (some runtime.created)
        handlers := fun did characteristic =>
          if did = entry.did ∧ characteristic ∈ characteristics (newDevice settings entry) then
            some runtime.created
          else runtime.handlers did characteristic
        registrations := runtime.registrations ++
          if settings.matter && (newDevice settings entry).matterSupported then
            [(entry.did, runtime.created)]
          else [] } := by
  have present : (newDevice settings entry).capabilities.entries.isEmpty = false := described
  rw [Runtime.publishEntry]
  simp only [present, Runtime.addToMatter]
  cases settings.matter && (newDevice settings entry).matterSupported with
  | false =>
      simp only [Bool.false_eq_true, if_false, List.append_nil]
      rfl
  | true => rfl

/-- Nothing that belongs to an older object of a renewable entry is left behind. -/
theorem Invariant.renews (invariant : Invariant runtime) {entry : Entry}
    (renewable : Renewable settings runtime entry) :
    (∀ code, runtime.known entry.did code = none) ∧
      (∀ call ∈ runtime.calls, runtime.devices entry.did ≠ some call.object) ∧
      (∀ object, (entry.did, object) ∉ runtime.registrations) ∧
      ∀ characteristic, (runtime.handlers entry.did characteristic).isSome →
        characteristic ∈ characteristics (newDevice settings entry) := by
  rcases renewable with absent | renewed
  · refine ⟨invariant.unknown entry.did absent, fun call _ => by simp [absent],
      fun object member => ?_, fun characteristic handled => ?_⟩
    · exact nomatch absent.symm.trans (invariant.matter _ _ member)
    · obtain ⟨object, bound⟩ := Option.isSome_iff_exists.mp handled
      exact nomatch absent.symm.trans (invariant.homekit _ _ _ bound)
  · exact renewed

theorem Invariant.created_unpublished (invariant : Invariant runtime) (did : String) :
    runtime.devices did ≠ some runtime.created := by
  intro published
  obtain ⟨device, found, -⟩ := invariant.published did _ published
  exact nomatch (invariant.fresh _ le_rfl).symm.trans found

/-- A device id that is not registered may be registered once. -/
theorem nodup_register {registrations : List (String × ℕ)} {did : String} {object : ℕ}
    (once : (registrations.map Prod.fst).Nodup)
    (unregistered : ∀ object, (did, object) ∉ registrations) (supported : Bool) :
    ((registrations ++ if supported then [(did, object)] else []).map Prod.fst).Nodup := by
  rw [List.map_append, List.nodup_append]
  refine ⟨once, by split <;> simp, fun known member other new => ?_⟩
  split at new
  · rw [List.map_singleton, List.mem_singleton] at new
    rintro rfl
    have own : known = did := new
    obtain ⟨registered, inside, same⟩ := List.mem_map.mp member
    exact unregistered registered.2 (by rw [← own, ← same]; exact inside)
  · exact nomatch new

/-- A renewable entry leaves nothing bound to an older object. -/
theorem Invariant.publishEntry (invariant : Invariant runtime) {entry : Entry}
    (described : (settings.catalogue entry.model).entries.isEmpty = false)
    (renewable : Renewable settings runtime entry) :
    Invariant (runtime.publishEntry settings entry) := by
  obtain ⟨nothing, idle, unregistered, anew⟩ := invariant.renews renewable
  have kept : ∀ {did object}, did ≠ entry.did → runtime.devices did = some object →
      Function.update runtime.devices entry.did (some runtime.created) did = some object :=
    fun other published => (Function.update_of_ne other _ _).trans published
  rw [publishEntry_eq described]
  refine ⟨fun object later => ?_, fun did object found => ?_, fun did absent => ?_,
    fun did characteristic object handled => ?_, fun did object member => ?_,
    nodup_register invariant.once unregistered _, fun call waits => ?_⟩
  · have above : runtime.created < object := later
    exact (Function.update_of_ne above.ne' _ _).trans (invariant.fresh object above.le)
  · by_cases own : did = entry.did
    · subst own
      have newest := Function.update_self entry.did (some runtime.created) runtime.devices
      obtain rfl := Option.some.inj (newest.symm.trans found)
      exact ⟨_, Function.update_self _ _ _, rfl, fun code => (nothing code).symm⟩
    · have found' := (Function.update_of_ne own _ _).symm.trans found
      have apart : object ≠ runtime.created := by
        rintro rfl
        exact invariant.created_unpublished did found'
      obtain ⟨device, known, same, states⟩ := invariant.published did object found'
      exact ⟨device, (Function.update_of_ne apart _ _).trans known, same, states⟩
  · by_cases own : did = entry.did
    · rw [own]
      exact nothing
    · exact invariant.unknown did ((Function.update_of_ne own _ _).symm.trans absent)
  · dsimp only at handled
    split at handled
    · rename_i anew
      rw [anew.1, ← handled]
      exact Function.update_self _ _ _
    · rename_i old
      have own : did ≠ entry.did := by
        rintro rfl
        exact old ⟨rfl, anew characteristic (by simp [handled])⟩
      exact kept own (invariant.homekit did characteristic object handled)
  · rcases List.mem_append.mp member with registered | new
    · have own : did ≠ entry.did := by
        rintro rfl
        exact unregistered object registered
      exact kept own (invariant.matter did object registered)
    · split at new
      · cases List.mem_singleton.mp new
        exact Function.update_self _ _ _
      · exact nomatch new
  · obtain ⟨did, held⟩ := invariant.calls call waits
    have own : did ≠ entry.did := by
      rintro rfl
      exact idle call waits held
    exact ⟨did, kept own held⟩

/-- Publishing an entry does not touch what another device id has. -/
theorem Renewable.publishEntry {entry other : Entry} (renewable : Renewable settings runtime other)
    (apart : other.did ≠ entry.did)
    (described : (settings.catalogue entry.model).entries.isEmpty = false) :
    Renewable settings (runtime.publishEntry settings entry) other := by
  rw [publishEntry_eq described]
  have same : Function.update runtime.devices entry.did (some runtime.created) other.did =
      runtime.devices other.did := Function.update_of_ne apart _ _
  rcases renewable with absent | ⟨nothing, idle, unregistered, anew⟩
  · exact Or.inl (same.trans absent)
  · refine Or.inr ⟨nothing, fun call waits => ?_, fun object member => ?_, fun characteristic => ?_⟩
    · exact fun held => idle call waits (same.symm.trans held)
    · rcases List.mem_append.mp member with old | new
      · exact unregistered object old
      · split at new
        · exact apart (congrArg Prod.fst (List.mem_singleton.mp new))
        · exact nomatch new
    · dsimp only
      rw [if_neg fun own => apart own.1]
      exact anew characteristic

/-- Only the entries that the catalogue describes get a device. -/
theorem publish_eq (hub : String) (inventory : List Entry) :
    runtime.publish settings hub inventory =
      (published settings hub inventory).foldl (Runtime.publishEntry settings) runtime := by
  rw [Runtime.publish]
  induction inventory generalizing runtime with
  | nil => rfl
  | cons entry inventory induction =>
      rw [published, List.filter_cons, List.filter_cons]
      cases wanted : entry.wanted hub with
      | false => simpa [published] using induction
      | true =>
          cases described : (settings.catalogue entry.model).entries.isEmpty with
          | false => simpa [published] using induction
          | true =>
              have skipped : runtime.publishEntry settings entry = runtime := by
                rw [Runtime.publishEntry]
                exact if_pos described
              simpa [published, skipped] using induction

theorem Invariant.publishEntries {entries : List Entry} {runtime : Runtime}
    (invariant : Invariant runtime) (distinct : (entries.map Entry.did).Nodup)
    (described : ∀ entry ∈ entries, (settings.catalogue entry.model).entries.isEmpty = false)
    (renewable : ∀ entry ∈ entries, Renewable settings runtime entry) :
    Invariant (entries.foldl (Runtime.publishEntry settings) runtime) := by
  induction entries generalizing runtime with
  | nil => exact invariant
  | cons entry entries induction =>
      obtain ⟨other, rest⟩ := List.nodup_cons.mp distinct
      have known := described entry List.mem_cons_self
      refine induction (invariant.publishEntry known (renewable entry List.mem_cons_self)) rest
        (fun later member => described later (List.mem_cons_of_mem _ member)) fun later member => ?_
      refine (renewable later (List.mem_cons_of_mem _ member)).publishEntry ?_ known
      intro same
      exact other (same ▸ List.mem_map_of_mem member)

theorem Invariant.publish (invariant : Invariant runtime) {hub : String} {inventory : List Entry}
    (renewing : Renewing settings runtime (.publish hub inventory)) :
    Invariant (runtime.publish settings hub inventory) := by
  rw [publish_eq]
  refine invariant.publishEntries renewing.1 (fun entry member => ?_) renewing.2
  have described := (List.mem_filter.mp member).2
  simpa using (Bool.and_eq_true_iff.mp described).2

/-- An object may change its traits along with the history, and its listeners. -/
theorem Invariant.change (invariant : Invariant runtime) {object : ℕ} {device : AqaraDevice}
    (changed : AqaraDevice) (found : runtime.objects object = some device)
    (live : runtime.devices device.deviceId = some object) (same : changed.deviceId = device.deviceId)
    (history : String → Option Json) (states : ∀ code, changed.state code = history code) :
    Invariant
      { runtime with
        objects := Function.update runtime.objects object (some changed)
        known := Function.update runtime.known device.deviceId history } := by
  refine ⟨fun other later => ?_, fun did other published => ?_, fun did absent => ?_,
    invariant.homekit, invariant.matter, invariant.once, invariant.calls⟩
  · have apart : other ≠ object := by
      rintro rfl
      exact nomatch (invariant.fresh other later).symm.trans found
    exact (Function.update_of_ne apart _ _).trans (invariant.fresh other later)
  · obtain ⟨device', found', named, held⟩ := invariant.published did other published
    by_cases own : did = device.deviceId
    · subst own
      obtain rfl := Option.some.inj (live.symm.trans published)
      refine ⟨changed, Function.update_self _ _ _, same, fun code => ?_⟩
      rw [states code]
      exact (congrFun (Function.update_self _ _ _) code).symm
    · have apart : other ≠ object := by
        rintro rfl
        obtain rfl := Option.some.inj (found.symm.trans found')
        exact own named.symm
      refine ⟨device', (Function.update_of_ne apart _ _).trans found', named, fun code => ?_⟩
      exact (held code).trans (congrFun (Function.update_of_ne own _ _) code).symm
  · have own : did ≠ device.deviceId := by
      rintro rfl
      exact nomatch absent.symm.trans live
    intro code
    exact (congrFun (Function.update_of_ne own _ _) code).trans (invariant.unknown did absent code)

theorem deviceId_of_reportLoop {device result : AqaraDevice} {entries : List (String × Json)}
    {changed : List String} (reported : device.reportLoop entries = .ok (result, changed)) :
    result.deviceId = device.deviceId := by
  induction entries generalizing device changed with
  | nil =>
      cases reported
      rfl
  | cons entry entries induction =>
      obtain ⟨path, value⟩ := entry
      rw [AqaraDevice.reportLoop] at reported
      cases found : device.codeFor path with
      | none =>
          rw [found] at reported
          exact induction reported
      | some code =>
          rw [found] at reported
          obtain ⟨⟨recorded, news⟩, record, rest⟩ := bind_eq_ok_iff.mp reported
          obtain ⟨⟨_, _⟩, looped, same⟩ := bind_eq_ok_iff.mp rest
          cases same
          have kept : recorded.deviceId = device.deviceId := by
            rw [AqaraDevice.record] at record
            split at record
            · cases record
              rfl
            · obtain ⟨_, _, done⟩ := bind_eq_ok_iff.mp record
              cases done
              rfl
          exact (induction looped).trans kept

theorem Invariant.onMessage (invariant : Invariant runtime) {message : Json} {next : Runtime}
    (received : runtime.onMessage message = .ok next) : Invariant next := by
  rw [Runtime.onMessage] at received
  split at received
  · cases received
    exact invariant
  · rename_i did attrs _
    split at received
    · cases received
      exact invariant
    · rename_i object device found
      obtain ⟨object', published, held⟩ := Option.bind_eq_some_iff.mp found
      obtain ⟨device', known, same⟩ := Option.map_eq_some_iff.mp held
      cases same
      obtain ⟨other, found', named, states⟩ := invariant.published did object published
      obtain rfl := Option.some.inj (known.symm.trans found')
      subst named
      obtain ⟨⟨reported, changed⟩, reports, done⟩ := bind_eq_ok_iff.mp received
      cases done
      refine invariant.change _ known published (deviceId_of_reportLoop reports) _ fun code => ?_
      rw [(AqaraDevice.state_of_reportLoop reports).2 code, states code]

/-- A call is made on the object that a handler is bound to. -/
theorem Invariant.set (invariant : Invariant runtime) {object : ℕ} (bound : Bound runtime object)
    (code : String) (value : Json) : Invariant (runtime.set object code value) := by
  rw [Runtime.set]
  split
  · refine ⟨invariant.fresh, invariant.published, invariant.unknown, invariant.homekit,
      invariant.matter, invariant.once, fun call waits => ?_⟩
    rcases List.mem_append.mp waits with old | new
    · exact invariant.calls call old
    · rw [List.mem_singleton.mp new]
      exact invariant.devices_of_bound bound
  · exact invariant

theorem Invariant.finish (invariant : Invariant runtime) (call : Call) :
    Invariant (runtime.finish call) :=
  ⟨invariant.fresh, invariant.published, invariant.unknown, invariant.homekit, invariant.matter,
    invariant.once, fun other waits => invariant.calls other (List.mem_filter.mp waits).1⟩

theorem Invariant.answered (invariant : Invariant runtime) {call : Call}
    (waits : call ∈ runtime.calls) {reply : Json}
    (accepted : LastWord.acknowledges reply = true) : Invariant (runtime.answered call reply) := by
  obtain ⟨did, published⟩ := invariant.calls call waits
  obtain ⟨device, found, named, states⟩ := invariant.published did call.object published
  subst named
  simp only [Runtime.answered, found, accepted, if_true]
  refine (invariant.finish call).change _ found published ?_ _ fun code => ?_
  · rw [AqaraDevice.afterWrite]
    split <;> rfl
  · rw [LastWord.state_afterWrite, Function.update_apply, states code]

/-- A twin starts to listen. -/
theorem Invariant.registered (invariant : Invariant runtime) {entry : String × ℕ}
    (member : entry ∈ runtime.registrations) : Invariant (runtime.registered entry.2) := by
  have published := invariant.matter entry.1 entry.2 member
  obtain ⟨device, found, named, states⟩ := invariant.published entry.1 entry.2 published
  rw [← named] at published states
  have listens := invariant.change { device with listeners := device.listeners ++ [.matter] }
    found published rfl _ states
  rw [Function.update_eq_self] at listens
  simpa only [Runtime.registered, found] using listens

/-- A renewing label keeps the invariant. -/
theorem Invariant.perform (invariant : Invariant runtime) {label : Label}
    (possible : Possible runtime label) (renewing : Renewing settings runtime label) {next : Runtime}
    (performed : perform settings runtime label = .ok next) : Invariant next := by
  cases label with
  | publish hub inventory =>
      cases performed
      exact invariant.publish renewing
  | message message => exact invariant.onMessage performed
  | set object code value =>
      cases performed
      exact invariant.set possible code value
  | answered call reply =>
      cases performed
      exact invariant.answered possible renewing
  | failed call =>
      cases performed
      exact invariant.finish call
  | registered entry =>
      cases performed
      exact invariant.registered possible

/-- In every renewing run there is one object for each device. -/
theorem one_object_per_device (settings : Settings) {labels : List Label} {runtime : Runtime}
    (run : (machine settings).Run (Renewing settings) labels runtime) : OneObject runtime := by
  refine Invariant.oneObject (run.invariant ?_ ?_)
  · rintro runtime ⟨objects, devices, handlers, registrations, calls, known⟩
    refine ⟨by simp [objects], by simp [devices], by simp [known], by simp [handlers],
      by simp [registrations], by simp [registrations], by simp [calls]⟩
  · rintro runtime label next invariant renewing ⟨possible, performed⟩
    exact invariant.perform possible renewing performed

/-- A catalogue that knows the lamp, on a Homebridge with Matter. -/
def lampSettings : Settings := ⟨fun _ => lamp.capabilities, true, lamp.levels⟩

/-- The lamp in the inventory. -/
def lampEntry : Entry := ⟨"lumi.lamp", "lumi.light.acn003", "lumi.hub"⟩

/-- The platform before its first connect. -/
def atLaunch : Runtime :=
  ⟨fun _ => none, 0, fun _ => none, fun _ _ => none, [], [], 0, fun _ _ => none⟩

theorem run_atLaunch (good : Runtime → Label → Prop) :
    (machine lampSettings).Run good [] atLaunch :=
  .start ⟨rfl, rfl, rfl, rfl, rfl, rfl⟩

/-- The lamp's device object once it is published. -/
def lampObject : AqaraDevice := { lamp with listeners := [.push] }

/-- The platform with its lamp. -/
def lampPublished : Runtime where
  objects := Function.update (fun _ => none) 0 (some lampObject)
  created := 1
  devices := Function.update (fun _ => none) "lumi.lamp" (some 0)
  handlers := fun did characteristic =>
    if did = "lumi.lamp" ∧ characteristic ∈ characteristics (newDevice lampSettings lampEntry) then
      some 0
    else none
  registrations := [("lumi.lamp", 0)]
  calls := []
  tickets := 0
  known := fun _ _ => none

theorem publish_lamp :
    atLaunch.publish lampSettings "lumi.hub" [lampEntry] = lampPublished := by
  have only : published lampSettings "lumi.hub" [lampEntry] = [lampEntry] := by decide +kernel
  have described : (lampSettings.catalogue lampEntry.model).entries.isEmpty = false := rfl
  rw [publish_eq, only]
  exact publishEntry_eq described

/-- The catalogue on a Homebridge without Matter. -/
def plainSettings : Settings := { lampSettings with matter := false }

theorem publish_plain (runtime : Runtime) :
    runtime.publish plainSettings "lumi.hub" [lampEntry] =
      { runtime with
        objects := Function.update runtime.objects runtime.created (some lampObject)
        created := runtime.created + 1
        devices := Function.update runtime.devices "lumi.lamp" (some runtime.created)
        handlers := fun did characteristic =>
          if did = "lumi.lamp" ∧
              characteristic ∈ characteristics (newDevice plainSettings lampEntry) then
            some runtime.created
          else runtime.handlers did characteristic } := by
  have only : published plainSettings "lumi.hub" [lampEntry] = [lampEntry] := by decide +kernel
  have described : (plainSettings.catalogue lampEntry.model).entries.isEmpty = false := rfl
  rw [publish_eq, only]
  refine (publishEntry_eq described).trans ?_
  simp only [plainSettings, Bool.false_and, Bool.false_eq_true, if_false, List.append_nil]
  rfl

/-- The lamp is published, and again before anything is known of it, and reports that it is off. -/
theorem one_object_per_device_lamp : ∃ labels runtime,
    (machine plainSettings).Run (Renewing plainSettings) labels runtime ∧
      labels = [.publish "lumi.hub" [lampEntry], .publish "lumi.hub" [lampEntry],
        .message LastWord.lampReportsOff] ∧
      runtime.known "lumi.lamp" "OnOff" = some (.bool false) ∧ OneObject runtime := by
  have start : (machine plainSettings).Run (Renewing plainSettings) [] atLaunch :=
    .start ⟨rfl, rfl, rfl, rfl, rfl, rfl⟩
  have once : ((published plainSettings "lumi.hub" [lampEntry]).map Entry.did).Nodup := by
    decide +kernel
  have first := start.extend (.publish "lumi.hub" [lampEntry])
    ⟨once, fun entry member => Or.inl rfl⟩ ⟨trivial, congrArg Except.ok (publish_plain atLaunch)⟩
  have second := first.extend (.publish "lumi.hub" [lampEntry])
    ⟨once, fun entry member => Or.inr ⟨fun _ => rfl, fun _ waits => absurd waits List.not_mem_nil,
      fun _ => List.not_mem_nil, fun characteristic bound => by
        obtain rfl := List.mem_singleton.mp (List.mem_of_mem_filter member)
        simpa [atLaunch, lampEntry] using bound⟩⟩
    ⟨trivial, congrArg Except.ok (publish_plain _)⟩
  have run := second.extend (.message LastWord.lampReportsOff) trivial ⟨trivial, rfl⟩
  exact ⟨_, _, run, rfl, rfl, one_object_per_device plainSettings run⟩

/-- A reconnect publishes the lamp again, and registers its Matter accessory again for another
object. -/
theorem reconnect_leaves_old_object : ∃ labels runtime,
    (machine lampSettings).Run (fun _ _ => True) labels runtime ∧ ¬ OneObject runtime := by
  have run := (run_atLaunch fun _ _ => True)
    |>.extend (.publish "lumi.hub" [lampEntry]) trivial ⟨trivial, congrArg Except.ok publish_lamp⟩
    |>.extend (.message LastWord.lampReportsOff) trivial ⟨trivial, rfl⟩
    |>.extend (.publish "lumi.hub" [lampEntry]) trivial ⟨trivial, rfl⟩
  refine ⟨_, _, run, fun one => ?_⟩
  exact absurd one.once (by decide +kernel)

end Publication
end Port
end AqaraLanLink
