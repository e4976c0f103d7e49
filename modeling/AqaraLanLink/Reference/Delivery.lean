import AqaraLanLink.Library.Runs
import AqaraLanLink.Reference.Device
import Mathlib.Data.List.AList
import Mathlib.Data.List.Induction

/-!
# Report delivery during setup

The coordinator's report handlers and its buffer for device ids without one, and a device whose
entities register one after the other, as a labelled transition system.  Reports, handler
registrations, seeds and entity registrations come in any order.
-/

namespace AqaraLanLink
namespace Reference

/-! ## The coordinator -/

/-- `_REPORT_BUFFER_MAXLEN`. -/
def reportBufferMaxlen : ℕ := 10

/-- `_REPORT_BUFFER_MAX_DIDS`. -/
def reportBufferMaxDids : ℕ := 64

/-- The part of a coordinator that delivers reports, which are given by their values. -/
structure Coordinator where
  /-- The device ids in `_report_handlers`, once for each handler. -/
  reportHandlers : List String
  /-- `_pending_reports`. -/
  pendingReports : AList fun _ : String => List (List (String × Json))

namespace Coordinator

/-- `_buffer_report`. -/
def bufferReport (coordinator : Coordinator) (did : String) (values : List (String × Json)) :
    Coordinator :=
  match coordinator.pendingReports.lookup did with
  | none =>
      if reportBufferMaxDids ≤ coordinator.pendingReports.keys.length then coordinator
      else
        { coordinator with
          pendingReports := coordinator.pendingReports.insert did [values] }
  | some buffer =>
      let longer := buffer ++ [values]
      { coordinator with
        pendingReports :=
          coordinator.pendingReports.insert did (longer.drop (longer.length - reportBufferMaxlen)) }

/-- The handlers that `_dispatch_report` calls. -/
def handlersFor (coordinator : Coordinator) (did : String) : List String :=
  coordinator.reportHandlers.filter fun handler => handler = did

/-- The reports that `register_report_handler` replays. -/
def buffered (coordinator : Coordinator) (did : String) : List (List (String × Json)) :=
  (coordinator.pendingReports.lookup did).getD []

/-- `register_report_handler`, without the replay. -/
def registerReportHandler (coordinator : Coordinator) (did : String) : Coordinator where
  reportHandlers := coordinator.reportHandlers ++ [did]
  pendingReports := coordinator.pendingReports.erase did

end Coordinator

namespace Delivery

open Library

/-! ## The machine -/

/-- A value arrives for the device: in a report or as a seed. -/
inductive Arrival where
  | report (values : List (String × Json))
  | seed (path : String) (value : Json)

/-- Whether an arrival is a report. -/
def Arrival.isReport : Arrival → Bool
  | report _ => true
  | seed _ _ => false

/-- What an arrival makes the latest value of a wire path. -/
def Arrival.update (path : String) (held : Option Json) : Arrival → Option Json
  | report values => Json.lastValue (fun raw => canonicalizeReportKey raw = path) values held
  | seed other value => if other = path then some value else held

/-- The latest value that has arrived for a wire path. -/
def latest (arrivals : List Arrival) (path : String) : Option Json :=
  arrivals.foldl (Arrival.update path) none

/-- The coordinator, the device and what has arrived for it. -/
structure Setup where
  /-- The coordinator. -/
  coordinator : Coordinator
  /-- The device. -/
  device : Device
  /-- What has arrived for the device, without the reports that were outside the buffer's bounds. -/
  arrivals : List Arrival

/-- What happens during setup. -/
inductive Label where
  /-- The hub reports values for a device id. -/
  | report (did : String) (values : List (String × Json))
  /-- A handler is registered for a device id. -/
  | registerReportHandler (did : String)
  /-- A value is seeded. -/
  | seed (path : String) (value : Json)
  /-- An entity registers for a descriptor. -/
  | registerEntity (descriptor : Descriptor)

/-- The arrivals after a report that has to be buffered: a full buffer drops its oldest report, and
too many device ids drop the new one. -/
def arrivalsBuffered (setup : Setup) (did : String) (values : List (String × Json)) :
    List Arrival :=
  match setup.coordinator.pendingReports.lookup did with
  | none =>
      if reportBufferMaxDids ≤ setup.coordinator.pendingReports.keys.length then setup.arrivals
      else setup.arrivals ++ [.report values]
  | some buffer =>
      if buffer.length < reportBufferMaxlen then setup.arrivals ++ [.report values]
      else setup.arrivals.eraseP Arrival.isReport ++ [.report values]

variable (did : String)

/-- What a report does; the device's id is `did`. -/
def performReport (setup : Setup) (key : String) (values : List (String × Json)) : Setup :=
  if setup.coordinator.handlersFor key = [] then
    { setup with
      coordinator := setup.coordinator.bufferReport key values
      arrivals := if key = did then arrivalsBuffered setup key values else setup.arrivals }
  else if key = did then
    { setup with
      device := (setup.coordinator.handlersFor key).foldl
        (fun device _ => device.handleReport values) setup.device
      arrivals := setup.arrivals ++ [.report values] }
  else setup

/-- When a label is possible: entities belong to the descriptors of the device. -/
def Possible (setup : Setup) : Label → Prop
  | .registerEntity descriptor => descriptor ∈ setup.device.descriptors
  | _ => True

/-- What a label does; the device's id is `did`. -/
def perform (setup : Setup) : Label → Setup
  | .report key values => performReport did setup key values
  | .registerReportHandler key =>
      { setup with
        coordinator := setup.coordinator.registerReportHandler key
        device :=
          if key = did then
            (setup.coordinator.buffered key).foldl Device.handleReport setup.device
          else setup.device }
  | .seed path value =>
      { setup with
        device := setup.device.seedInitialValue path value
        arrivals := setup.arrivals ++ [.seed path value] }
  | .registerEntity descriptor =>
      { setup with
        device :=
          if known : descriptor ∈ setup.device.descriptors then
            setup.device.registerEntity descriptor known
          else setup.device }

/-- Setup of one device. -/
def machine : Machine Setup Label where
  initial setup := did ∉ setup.coordinator.reportHandlers ∧
    setup.coordinator.pendingReports.lookup did = none ∧ setup.device.entities = [] ∧
    (∀ path, setup.device.pendingInitialValues path = []) ∧
    setup.device.deliveredInitialValues = [] ∧ setup.arrivals = []
  step setup label next := Possible setup label ∧ next = perform did setup label

/-! ## What setup promises -/

/-- Every registered stateful entity has been given, for each of its wire paths, the latest value
that has arrived for it. -/
def Delivered (setup : Setup) : Prop :=
  ∀ descriptor ∈ setup.device.entities, descriptor.shouldReplaySeed = true →
    ∀ path ∈ descriptor.wirePaths,
      setup.device.given descriptor path = latest setup.arrivals path

/-- A wire path of a registered stateful entity. -/
def Watched (setup : Setup) (path : String) : Prop :=
  ∃ descriptor ∈ setup.device.entities, descriptor.shouldReplaySeed = true ∧
    path ∈ descriptor.wirePaths

/-- What replaying buffered reports makes the value of a wire path. -/
def replayed (reports : List (List (String × Json))) (path : String) (held : Option Json) :
    Option Json :=
  reports.foldl
    (fun held values => Json.lastValue (fun raw => canonicalizeReportKey raw = path) values held) held

/-- The seed that `register_entity` would deliver last for a wire path. -/
def staged (device : Device) (path : String) : Option Json :=
  if path ∈ device.deliveredInitialValues then none
  else (device.pendingInitialValues path).getLast?

/-- A report that has to be buffered and a seed bring nothing new to a registered stateful entity,
a replay ends on the latest values, and a stateful entity registers while the latest value of each
of its wire paths is a staged seed. -/
def Timely (setup : Setup) : Label → Prop
  | .report key values => key = did → setup.coordinator.handlersFor key = [] →
      ∀ path, Watched setup path →
        latest (arrivalsBuffered setup key values) path = latest setup.arrivals path
  | .registerReportHandler key => key = did → ∀ path, Watched setup path →
      replayed (setup.coordinator.buffered key) path (latest setup.arrivals path) =
        latest setup.arrivals path
  | .seed path value => Watched setup path → latest setup.arrivals path = some value
  | .registerEntity descriptor => descriptor.shouldReplaySeed = true →
      ∀ path ∈ descriptor.wirePaths, staged setup.device path = latest setup.arrivals path

/-! ## What the device's operations give -/

@[simp] theorem entities_handleReport (device : Device) (values : List (String × Json)) :
    (device.handleReport values).entities = device.entities := by
  rw [Device.handleReport_eq_withGiven]
  rfl

/-- A report gives an entity the last value it has for each of its wire paths. -/
theorem given_handleReport {device : Device} {descriptor : Descriptor}
    (bound : descriptor ∈ device.entities) {path : String} (watched : path ∈ descriptor.wirePaths)
    (values : List (String × Json)) :
    (device.handleReport values).given descriptor path =
      Json.lastValue (fun raw => canonicalizeReportKey raw = path) values
        (device.given descriptor path) := by
  have indexed := Descriptor.indexed_of_mem_wirePaths watched
  rw [Device.handleReport_eq_withGiven, Device.withGiven]
  exact if_pos ⟨indexed, bound⟩

@[simp] theorem entities_replay (device : Device) (reports : List (List (String × Json))) :
    (reports.foldl Device.handleReport device).entities = device.entities := by
  induction reports generalizing device with
  | nil => rfl
  | cons values reports induction => simp [induction]

theorem given_replay {device : Device} {descriptor : Descriptor}
    (bound : descriptor ∈ device.entities) {path : String} (watched : path ∈ descriptor.wirePaths)
    (reports : List (List (String × Json))) :
    (reports.foldl Device.handleReport device).given descriptor path =
      replayed reports path (device.given descriptor path) := by
  induction reports generalizing device with
  | nil => rfl
  | cons values reports induction =>
      have stays : descriptor ∈ (device.handleReport values).entities := by simpa using bound
      rw [List.foldl_cons, induction stays, given_handleReport bound watched]
      rfl

/-- A report that reaches a device through several handlers is as good as one. -/
theorem given_handlers {device : Device} {descriptor : Descriptor}
    (bound : descriptor ∈ device.entities) {path : String} (watched : path ∈ descriptor.wirePaths)
    {handlers : List String} (some : handlers ≠ []) (values : List (String × Json)) :
    (handlers.foldl (fun device _ => device.handleReport values) device).given descriptor path =
      Json.lastValue (fun raw => canonicalizeReportKey raw = path) values
        (device.given descriptor path) := by
  induction handlers generalizing device with
  | nil => exact absurd rfl some
  | cons handler handlers induction =>
      have stays : descriptor ∈ (device.handleReport values).entities := by simpa using bound
      rw [List.foldl_cons]
      cases handlers with
      | nil => exact given_handleReport bound watched values
      | cons next rest =>
          rw [induction stays (List.cons_ne_nil _ _), given_handleReport bound watched,
            Json.lastValue_lastValue]

@[simp] theorem entities_handlers (device : Device) (handlers : List String)
    (values : List (String × Json)) :
    (handlers.foldl (fun device _ => device.handleReport values) device).entities =
      device.entities := by
  induction handlers generalizing device with
  | nil => rfl
  | cons handler handlers induction => simp [induction]

/-- Delivering seeds gives the entity the last of them, and touches nothing else. -/
theorem foldl_apply_seeds {device : Device} {descriptor : Descriptor}
    (bound : descriptor ∈ device.entities) (path : String) (seeds : List Json) :
    seeds.foldl (fun device value => device.apply descriptor value path) device =
      device.withGiven fun other key =>
        if other = descriptor ∧ key = path then seeds.getLast?.or (device.given other key)
        else device.given other key := by
  induction seeds using List.reverseRecOn with
  | nil => simp [Device.withGiven]
  | append_singleton seeds value induction =>
      rw [List.foldl_append, induction, List.foldl_cons, List.foldl_nil, Device.apply_eq_withGiven]
      simp only [Device.withGiven, bound, true_and]
      congr 1
      funext other key
      by_cases same : other = descriptor ∧ key = path
      · simp [same]
      · simp [same]

/-- The device once `register_entity` has dealt with one wire path. -/
def deliverPath (device : Device) (descriptor : Descriptor) (path : String) : Device :=
  device.deliverSeeds descriptor [path]

theorem deliverSeeds_cons (device : Device) (descriptor : Descriptor) (path : String)
    (paths : List String) :
    device.deliverSeeds descriptor (path :: paths) =
      (deliverPath device descriptor path).deliverSeeds descriptor paths := by
  simp only [deliverPath, Device.deliverSeeds]
  split
  · rfl
  · split
    · rfl
    · rfl

/-- What `register_entity` does about one wire path: nothing, when no seed is staged for it; else the
staged seed is given to a stateful entity and is used up. -/
theorem deliverPath_cases {device : Device} {descriptor : Descriptor}
    (bound : descriptor ∈ device.entities) (path : String) :
    staged device path = none ∧ deliverPath device descriptor path = device ∨
      ∃ value, staged device path = some value ∧
        deliverPath device descriptor path =
          { device with
            pendingInitialValues := Function.update device.pendingInitialValues path []
            deliveredInitialValues := path :: device.deliveredInitialValues
            given := fun other key =>
              if other = descriptor ∧ key = path ∧ descriptor.shouldReplaySeed = true then some value
              else device.given other key } := by
  simp only [deliverPath, Device.deliverSeeds]
  split
  · rename_i delivered
    exact Or.inl ⟨if_pos delivered, rfl⟩
  · rename_i waiting
    have last : staged device path = (device.pendingInitialValues path).getLast? := if_neg waiting
    split
    · rename_i empty
      rw [empty] at last
      have same : Function.update device.pendingInitialValues path [] =
          device.pendingInitialValues := Function.update_eq_self_iff.mpr empty.symm
      exact Or.inl ⟨last, by rw [same]⟩
    · rename_i nonempty
      rw [List.getLast?_eq_some_getLast nonempty] at last
      refine Or.inr ⟨_, last, ?_⟩
      split
      · rename_i stateful
        rw [foldl_apply_seeds (by exact bound)]
        simp [Device.withGiven, stateful, List.getLast?_eq_some_getLast nonempty]
      · rename_i momentary
        simp [momentary]

/-- The staged seed of a wire path is given and used up. -/
theorem deliverPath_spec {device : Device} {descriptor : Descriptor}
    (bound : descriptor ∈ device.entities) (path : String) :
    (deliverPath device descriptor path).entities = device.entities ∧
      (∀ other key, (deliverPath device descriptor path).given other key =
        if other = descriptor ∧ key = path ∧ descriptor.shouldReplaySeed = true then
          (staged device path).or (device.given other key)
        else device.given other key) ∧
      ∀ key, staged (deliverPath device descriptor path) key =
        if key = path then none else staged device key := by
  rcases deliverPath_cases bound path with ⟨none, same⟩ | ⟨value, some, same⟩
  · rw [same, none]
    refine ⟨rfl, fun other key => by simp, fun key => ?_⟩
    split
    · rename_i own
      rw [own, none]
    · rfl
  · rw [same, some]
    refine ⟨rfl, fun other key => rfl, fun key => ?_⟩
    split
    · rename_i own
      simp [own, staged]
    · rename_i different
      simp [staged, different]

/-- Delivering the seeds of some wire paths gives the last staged seed of each. -/
theorem deliverSeeds_spec {device : Device} {descriptor : Descriptor}
    (bound : descriptor ∈ device.entities) (paths : List String) :
    (device.deliverSeeds descriptor paths).entities = device.entities ∧
      ∀ other key, (device.deliverSeeds descriptor paths).given other key =
        if other = descriptor ∧ key ∈ paths ∧ descriptor.shouldReplaySeed = true then
          (staged device key).or (device.given other key)
        else device.given other key := by
  induction paths generalizing device with
  | nil => exact ⟨rfl, fun other key => by simp [Device.deliverSeeds]⟩
  | cons path paths induction =>
      obtain ⟨entities, given, left⟩ := deliverPath_spec bound path
      obtain ⟨rest, delivers⟩ := induction (by rwa [← entities] at bound)
      rw [deliverSeeds_cons]
      refine ⟨rest.trans entities, fun other key => ?_⟩
      rw [delivers other key, given other key, left key]
      by_cases same : key = path
      · subst same
        by_cases served : other = descriptor ∧ descriptor.shouldReplaySeed = true
        · simp [served.1, served.2]
        · simp only [List.mem_cons, true_or, true_and]
          rw [if_neg fun both => served ⟨both.1, both.2.2⟩]
      · simp [same]

theorem cons_subset_descriptors {device : Device} {descriptor : Descriptor}
    (known : descriptor ∈ device.descriptors) : descriptor :: device.entities ⊆ device.descriptors :=
  List.cons_subset.mpr ⟨known, device.entities_subset⟩

/-- The device once `register_entity` has bound a new entity. -/
def bindEntity (device : Device) (descriptor : Descriptor)
    (known : descriptor ∈ device.descriptors) : Device where
  descriptors := device.descriptors
  entities := descriptor :: device.entities
  entities_subset := cons_subset_descriptors known
  pendingInitialValues := device.pendingInitialValues
  deliveredInitialValues := device.deliveredInitialValues
  given other := if other = descriptor then fun _ => none else device.given other

theorem mem_entities_bindEntity {device : Device} {descriptor : Descriptor}
    (known : descriptor ∈ device.descriptors) :
    descriptor ∈ (bindEntity device descriptor known).entities := List.mem_cons_self

theorem registerEntity_eq {device : Device} {descriptor : Descriptor}
    (known : descriptor ∈ device.descriptors) :
    device.registerEntity descriptor known =
      (bindEntity device descriptor known).deliverSeeds descriptor descriptor.wirePaths := rfl

/-- A fresh entity has been given the staged seed of each of its wire paths and nothing else. -/
theorem given_registerEntity {device : Device} {descriptor : Descriptor}
    (known : descriptor ∈ device.descriptors) :
    (device.registerEntity descriptor known).entities = descriptor :: device.entities ∧
      (∀ other, other ≠ descriptor →
        (device.registerEntity descriptor known).given other = device.given other) ∧
      (descriptor.shouldReplaySeed = true → ∀ path ∈ descriptor.wirePaths,
        (device.registerEntity descriptor known).given descriptor path = staged device path) := by
  obtain ⟨entities, given⟩ :=
    deliverSeeds_spec (mem_entities_bindEntity known) descriptor.wirePaths
  have seeds : ∀ path, staged (bindEntity device descriptor known) path = staged device path :=
    fun _ => rfl
  have reset : (bindEntity device descriptor known).given descriptor = fun _ => none := if_pos rfl
  rw [registerEntity_eq]
  refine ⟨entities, fun other different => ?_, fun stateful path member => ?_⟩
  · have others : (bindEntity device descriptor known).given other = device.given other :=
      if_neg different
    funext key
    rw [given, if_neg fun own => different own.1, others]
  · rw [given, if_pos ⟨rfl, member, stateful⟩, seeds, reset, Option.or_none]

/-! ## What a run preserves -/

theorem latest_append (arrivals : List Arrival) (arrival : Arrival) (path : String) :
    latest (arrivals ++ [arrival]) path = arrival.update path (latest arrivals path) := by
  simp [latest]

variable {did : String} {setup : Setup}

/-- A step that leaves the entities and the latest values of their wire paths as they are. -/
theorem delivered_of_same {next : Setup} (delivered : Delivered setup)
    (entities : next.device.entities = setup.device.entities)
    (given : ∀ descriptor ∈ setup.device.entities, ∀ path ∈ descriptor.wirePaths,
      descriptor.shouldReplaySeed = true → setup.device.given descriptor path =
        latest setup.arrivals path →
      next.device.given descriptor path = latest next.arrivals path) : Delivered next := by
  intro descriptor member stateful path watched
  rw [entities] at member
  exact given descriptor member path watched stateful
    (delivered descriptor member stateful path watched)

theorem delivered_performReport (delivered : Delivered setup) (key : String)
    (values : List (String × Json)) (timely : Timely did setup (.report key values)) :
    Delivered (performReport did setup key values) := by
  rw [performReport]
  split
  · rename_i unhandled
    refine delivered_of_same delivered rfl fun descriptor member path watched stateful given => ?_
    split
    · rename_i ours
      exact given.trans (timely ours unhandled path ⟨descriptor, member, stateful, watched⟩).symm
    · exact given
  · rename_i handled
    split
    · refine delivered_of_same delivered (entities_handlers ..)
        fun descriptor member path watched stateful given => ?_
      rw [latest_append, Arrival.update, ← given]
      exact given_handlers member watched handled values
    · exact delivered

/-- A timely label keeps every registered entity up to date. -/
theorem delivered_perform (delivered : Delivered setup) {label : Label}
    (possible : Possible setup label) (timely : Timely did setup label) :
    Delivered (perform did setup label) := by
  cases label with
  | report key values => exact delivered_performReport delivered key values timely
  | registerReportHandler key =>
      rw [perform]
      split
      · rename_i ours
        refine delivered_of_same delivered (entities_replay ..)
          fun descriptor member path watched stateful given => ?_
        have ends := timely ours path ⟨descriptor, member, stateful, watched⟩
        rw [given_replay member watched, given, ends]
      · exact delivered
  | seed path value =>
      refine delivered_of_same delivered ?_ fun descriptor member other watched stateful given => ?_
      · simp only [perform, Device.seedInitialValue]
        split <;> rfl
      · have kept : (perform did setup (.seed path value)).device.given = setup.device.given := by
          simp only [perform, Device.seedInitialValue]
          split <;> rfl
        rw [kept, given, perform, latest_append, Arrival.update]
        split
        · rename_i same
          subst same
          exact timely ⟨descriptor, member, stateful, watched⟩
        · rfl
  | registerEntity descriptor =>
      have known : descriptor ∈ setup.device.descriptors := possible
      obtain ⟨entities, others, fresh⟩ := given_registerEntity known
      rw [perform, dif_pos known]
      intro other member stateful path watched
      rw [entities] at member
      by_cases same : other = descriptor
      · subst same
        exact (fresh stateful path watched).trans (timely stateful path watched)
      · have before := List.mem_of_ne_of_mem same member
        simp only [others other same]
        exact delivered other before stateful path watched

/-- In every run of timely steps, every registered stateful entity has been given the latest value
that has arrived for each of its wire paths. -/
theorem reports_delivered {labels : List Label} {setup : Setup}
    (run : (machine did).Run (Timely did) labels setup) : Delivered setup := by
  refine run.invariant ?_ ?_
  · rintro setup ⟨-, -, none, -⟩ descriptor member
    rw [none] at member
    exact nomatch member
  · rintro setup label next delivered timely ⟨possible, rfl⟩
    exact delivered_perform delivered possible timely

/-- The switch of the lamp. -/
def lampSwitch : Descriptor := .attrBacked "power" "2.132.32920" none

/-- The lamp before setup. -/
def lampSetup : Setup where
  coordinator := ⟨[], ∅⟩
  device := ⟨[lampSwitch], [], List.nil_subset _, fun _ => [], [], fun _ _ => none⟩
  arrivals := []

theorem run_lampSetup (good : Setup → Label → Prop) :
    (machine "lumi.lamp").Run good [] lampSetup :=
  .start ⟨nofun, rfl, rfl, fun _ => rfl, rfl, rfl⟩

/-- The lamp once its handler and its seed are in place. -/
def lampSeeded : Setup :=
  perform "lumi.lamp" (perform "lumi.lamp" lampSetup (.registerReportHandler "lumi.lamp"))
    (.seed "2.132.32920" (.string "0"))

theorem reports_delivered_lamp :
    Delivered (perform "lumi.lamp" (perform "lumi.lamp" lampSeeded (.registerEntity lampSwitch))
      (.report "lumi.lamp" [("2.132.32920.1", .string "1")])) := by
  refine reports_delivered <| (run_lampSetup (Timely "lumi.lamp"))
    |>.extend (.registerReportHandler "lumi.lamp") ?_ ⟨trivial, rfl⟩
    |>.extend (.seed "2.132.32920" (.string "0")) ?_ ⟨trivial, rfl⟩
    |>.extend (.registerEntity lampSwitch) ?_ ⟨List.mem_singleton.mpr rfl, rfl⟩
    |>.extend (.report "lumi.lamp" [("2.132.32920.1", .string "1")]) ?_ ⟨trivial, rfl⟩
  · rintro - path ⟨_, member, _⟩
    exact nomatch member
  · rintro ⟨_, member, _⟩
    exact nomatch member
  · rintro - path member
    obtain rfl : path = "2.132.32920" := List.mem_singleton.mp member
    rfl
  · intro _ unhandled
    exact nomatch unhandled

/-- A report between handler and entity registration is lost. -/
theorem report_before_entity_lost :
    ∃ labels setup, (machine "lumi.lamp").Run (fun _ _ => True) labels setup ∧
      ¬ Delivered setup := by
  refine ⟨_, _, (run_lampSetup fun _ _ => True)
    |>.extend (.registerReportHandler "lumi.lamp") trivial ⟨trivial, rfl⟩
    |>.extend (.report "lumi.lamp" [("2.132.32920.1", .string "1")]) trivial ⟨trivial, rfl⟩
    |>.extend (.registerEntity lampSwitch) trivial ⟨List.mem_singleton.mpr rfl, rfl⟩,
    fun delivered => ?_⟩
  have canonical : canonicalizeReportKey "2.132.32920.1" = "2.132.32920" := by decide
  have given := delivered lampSwitch (List.mem_singleton.mpr rfl) rfl "2.132.32920"
    (List.mem_singleton.mpr rfl)
  have arrived : latest [.report [("2.132.32920.1", .string "1")]] "2.132.32920" =
      some (.string "1") := by simp [latest, Arrival.update, Json.lastValue_cons, canonical]
  exact nomatch given.trans arrived

end Delivery
end Reference
end AqaraLanLink
