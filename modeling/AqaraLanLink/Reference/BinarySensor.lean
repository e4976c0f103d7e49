import AqaraLanLink.Json
import AqaraLanLink.Library.Runs
import Mathlib.Algebra.Order.Ring.Rat
import Mathlib.Tactic.Linarith
import Mathlib.Tactic.NormNum

/-!
# Binary sensors and their timers

`AqaraBinarySensor` with `resolve_auto_clear_seconds` of its device as a labelled transition system:
reports, timers, changes of the camera's detection-clear delay and removal, in any order.
-/

namespace AqaraLanLink
namespace Reference
namespace BinarySensor

open Library

/-! ## The machine -/

/-- `BinarySensorDescriptor`, as far as the sensor reads it. -/
structure Descriptor where
  /-- `on_values`. -/
  onValues : List String
  /-- `on_any_value`. -/
  onAnyValue : Bool
  /-- `auto_clear_seconds`. -/
  autoClearSeconds : Option ℚ
  /-- A delay is positive. -/
  positive : ∀ seconds, autoClearSeconds = some seconds → 0 < seconds

/-- What `apply_value` makes of a raw value; one that cannot be looked up in `on_values` says
nothing, because `apply_value` raises. -/
def Descriptor.means (descriptor : Descriptor) (raw : Json) : Option Bool :=
  if descriptor.onAnyValue then
    match raw with
    | .string text => some (text ≠ "" && text ≠ "0")
    | _ => some true
  else
    match raw with
    | .string text => some (descriptor.onValues.contains text)
    | .array _ => none
    | .object _ => none
    | _ => some false

/-- `MIN_DETECTION_CLEAR_DELAY_S`. -/
def minDetectionClearDelay : ℚ := 15

/-- `MAX_DETECTION_CLEAR_DELAY_S`. -/
def maxDetectionClearDelay : ℚ := 600

/-- A handle of `call_later`. -/
structure Timer where
  /-- Which handle it is. -/
  id : ℕ
  /-- When it is due. -/
  due : ℚ
  deriving DecidableEq

/-- A sensor with its device and the timers of the event loop that belong to it. -/
structure Sensor where
  /-- The monotonic clock. -/
  now : ℚ
  /-- Its descriptor. -/
  descriptor : Descriptor
  /-- The descriptors of its device. -/
  siblings : List Descriptor
  /-- Whether its device is a `CameraDevice`. -/
  camera : Bool
  /-- The value of the camera's delay number, once there is one. -/
  detectionDelay : Option ℚ
  /-- `_attr_is_on`. -/
  isOn : Bool
  /-- `_auto_clear_handle`. -/
  handle : Option ℕ
  /-- The handles created so far. -/
  handles : ℕ
  /-- The handles that have neither fired nor been cancelled. -/
  timers : List Timer
  /-- Whether the entity has been removed. -/
  removed : Bool

/-- What the reports have said and the timers have done, whatever the sensor makes of it. -/
structure Account where
  /-- What the last report has said. -/
  said : Option Bool
  /-- When the delay resolved at the last on-report is over. -/
  due : ℚ
  /-- When a timer has cleared the sensor after the last report. -/
  clearedAt : Option ℚ

/-- A sensor with the account of what has happened to it. -/
structure State where
  /-- The sensor. -/
  sensor : Sensor
  /-- The account. -/
  account : Account

/-- What happens to a sensor. -/
inductive Label where
  /-- Time passes. -/
  | clock (elapsed : ℚ)
  /-- A report carries a value for the sensor. -/
  | report (raw : Json)
  /-- A timer fires. -/
  | fires (timer : Timer)
  /-- The camera's delay number is set up with a value, or changed. -/
  | setDelay (value : ℚ)
  /-- The entity is removed. -/
  | remove

/-- `resolve_auto_clear_seconds` of the device. -/
def Sensor.resolveAutoClearSeconds (sensor : Sensor) : Option ℚ :=
  if sensor.camera then
    match sensor.detectionDelay with
    | some delay => some delay
    | none => sensor.descriptor.autoClearSeconds
  else sensor.descriptor.autoClearSeconds

/-- `_cancel_auto_clear`. -/
def Sensor.cancelAutoClear (sensor : Sensor) : Sensor :=
  { sensor with
    handle := none
    timers := sensor.timers.filter fun timer => some timer.id ≠ sensor.handle }

/-- `_reschedule_auto_clear` with the delay it resolves. -/
def Sensor.rescheduleAutoClear (sensor : Sensor) (delay : ℚ) : Sensor :=
  let cancelled := sensor.cancelAutoClear
  { cancelled with
    handle := some sensor.handles
    handles := sensor.handles + 1
    timers := ⟨sensor.handles, sensor.now + delay⟩ :: cancelled.timers }

/-- `apply_value` for a value that says on. -/
def Sensor.turnOn (sensor : Sensor) : Sensor :=
  let shown := { sensor with isOn := true }
  match sensor.resolveAutoClearSeconds with
  | none => shown
  | some delay => if delay = 0 then shown else shown.rescheduleAutoClear delay

/-- `apply_value` for a value that says off. -/
def Sensor.turnOff (sensor : Sensor) : Sensor :=
  Sensor.cancelAutoClear { sensor with isOn := false }

/-- `apply_value`. -/
def Sensor.applyValue (sensor : Sensor) (raw : Json) : Sensor :=
  match sensor.descriptor.means raw with
  | none => sensor
  | some true => sensor.turnOn
  | some false => sensor.turnOff

/-- `_auto_clear`, when a timer fires. -/
def Sensor.autoClear (sensor : Sensor) (timer : Timer) : Sensor :=
  let fired := { sensor with handle := none, timers := sensor.timers.erase timer }
  if fired.isOn then { fired with isOn := false } else fired

/-- When a label is possible: the number exists on a camera with an auto-clearing sensor, and its
platform keeps it within its range. -/
def Possible (sensor : Sensor) : Label → Prop
  | .clock elapsed => 0 ≤ elapsed
  | .report _ => sensor.removed = false
  | .fires timer => timer ∈ sensor.timers ∧ timer.due ≤ sensor.now
  | .setDelay value => sensor.camera = true ∧
      (sensor.siblings.any fun sibling => sibling.autoClearSeconds.isSome) = true ∧
      minDetectionClearDelay ≤ value ∧ value ≤ maxDetectionClearDelay
  | .remove => sensor.removed = false

/-- What a label does to the sensor. -/
def Sensor.perform (sensor : Sensor) : Label → Sensor
  | .clock elapsed => { sensor with now := sensor.now + elapsed }
  | .report raw => sensor.applyValue raw
  | .fires timer => sensor.autoClear timer
  | .setDelay value => { sensor with detectionDelay := some value }
  | .remove => { sensor.cancelAutoClear with removed := true }

/-- What a label means for the account, by the value that a report carries and by whether a timer has
turned the sensor off. -/
def Account.record (account : Account) (sensor : Sensor) : Label → Account
  | .report raw =>
      match sensor.descriptor.means raw with
      | none => account
      | some true => ⟨some true, sensor.now + sensor.resolveAutoClearSeconds.getD 0, none⟩
      | some false => { account with said := some false, clearedAt := none }
  | .fires timer =>
      if sensor.isOn && !(sensor.perform (.fires timer)).isOn then
        { account with clearedAt := some sensor.now }
      else account
  | _ => account

/-- What a label does. -/
def perform (state : State) (label : Label) : State :=
  ⟨state.sensor.perform label, state.account.record state.sensor label⟩

/-- A sensor of any device; a stateful one may start on, from its restored state. -/
def machine : Machine State Label where
  initial state := state.sensor.descriptor ∈ state.sensor.siblings ∧
    state.sensor.detectionDelay = none ∧
    (state.sensor.descriptor.autoClearSeconds.isSome → state.sensor.isOn = false) ∧
    state.sensor.handle = none ∧ state.sensor.timers = [] ∧ state.sensor.removed = false ∧
    state.account.said = none ∧ state.account.clearedAt = none
  step state label next := Possible state.sensor label ∧ next = perform state label

/-! ## What a sensor promises -/

/-- What stateful and momentary sensors promise. -/
structure Faithful (sensor : Sensor) (account : Account) : Prop where
  /-- A stateful sensor shows what its last report has said, and no timer clears it. -/
  stateful : sensor.descriptor.autoClearSeconds = none →
    (∀ said, account.said = some said → sensor.isOn = said) ∧ account.clearedAt = none
  /-- A momentary sensor has at most one live timer. -/
  single : sensor.descriptor.autoClearSeconds.isSome → sensor.timers.length ≤ 1
  /-- It has none while it is off or after its removal. -/
  quiet : sensor.descriptor.autoClearSeconds.isSome →
    sensor.isOn = false ∨ sensor.removed = true → sensor.timers = []
  /-- It stays on until it is told off or a timer clears it. -/
  stays : sensor.descriptor.autoClearSeconds.isSome → ∀ said, account.said = some said →
    account.clearedAt = none → sensor.isOn = said
  /-- A timer clears it only when the delay is over. -/
  held : sensor.descriptor.autoClearSeconds.isSome → ∀ time, account.clearedAt = some time →
    account.due ≤ time
  /-- While it is on, a timer is due when the delay is over. -/
  clears : sensor.descriptor.autoClearSeconds.isSome → sensor.isOn = true →
    sensor.removed = false → ∃ timer ∈ sensor.timers, timer.due = account.due

/-- A stateful sensor is not turned on while its camera's delay number is set up. -/
def Untimed (state : State) : Label → Prop
  | .report raw => state.sensor.descriptor.means raw = some true →
      state.sensor.descriptor.autoClearSeconds = none →
        state.sensor.resolveAutoClearSeconds = none
  | _ => True

/-! ## What a run preserves -/

/-- What holds in every state of an untimed run. -/
structure Invariant (sensor : Sensor) (account : Account) : Prop where
  delay : ∀ value, sensor.detectionDelay = some value → 0 < value
  /-- A stateful sensor has no timers. -/
  stateful : sensor.descriptor.autoClearSeconds = none →
    (∀ said, account.said = some said → sensor.isOn = said) ∧ account.clearedAt = none ∧
      sensor.timers = []
  /-- A momentary sensor that is on has its timer, and holds its handle. -/
  armed : sensor.descriptor.autoClearSeconds.isSome → sensor.isOn = true →
    sensor.removed = false → ∃ id, sensor.handle = some id ∧ sensor.timers = [⟨id, account.due⟩]
  idle : sensor.descriptor.autoClearSeconds.isSome → sensor.isOn = false ∨ sensor.removed = true →
    sensor.timers = []
  stays : sensor.descriptor.autoClearSeconds.isSome → ∀ said, account.said = some said →
    account.clearedAt = none → sensor.isOn = said
  held : sensor.descriptor.autoClearSeconds.isSome → ∀ time, account.clearedAt = some time →
    account.due ≤ time

variable {sensor : Sensor} {account : Account}

theorem Invariant.faithful (invariant : Invariant sensor account) : Faithful sensor account where
  stateful none := ⟨(invariant.stateful none).1, (invariant.stateful none).2.1⟩
  single momentary := by
    cases isOn : sensor.isOn with
    | false => simp [invariant.idle momentary (Or.inl isOn)]
    | true =>
        cases removed : sensor.removed with
        | true => simp [invariant.idle momentary (Or.inr removed)]
        | false =>
            obtain ⟨id, -, timers⟩ := invariant.armed momentary isOn removed
            simp [timers]
  quiet := invariant.idle
  stays := invariant.stays
  held := invariant.held
  clears momentary isOn present := by
    obtain ⟨id, -, timers⟩ := invariant.armed momentary isOn present
    exact ⟨⟨id, account.due⟩, by simp [timers], rfl⟩

theorem stateful_or_momentary (descriptor : Descriptor) :
    descriptor.autoClearSeconds = none ∨ descriptor.autoClearSeconds.isSome := by
  cases descriptor.autoClearSeconds with
  | none => exact Or.inl rfl
  | some seconds => exact Or.inr rfl

/-- The delay of a momentary sensor is positive. -/
theorem Invariant.resolves (invariant : Invariant sensor account)
    (momentary : sensor.descriptor.autoClearSeconds.isSome) :
    ∃ delay, 0 < delay ∧ sensor.resolveAutoClearSeconds = some delay := by
  obtain ⟨seconds, baked⟩ := Option.isSome_iff_exists.mp momentary
  have positive := sensor.descriptor.positive seconds baked
  rw [Sensor.resolveAutoClearSeconds]
  split
  · split
    · rename_i delay chosen
      exact ⟨delay, invariant.delay delay chosen, rfl⟩
    · exact ⟨seconds, positive, baked⟩
  · exact ⟨seconds, positive, baked⟩

/-- Cancelling leaves no timer. -/
theorem Invariant.cancelled (invariant : Invariant sensor account) :
    sensor.cancelAutoClear.timers = [] := by
  rw [Sensor.cancelAutoClear]
  rcases stateful_or_momentary sensor.descriptor with stateful | momentary
  · simp [(invariant.stateful stateful).2.2]
  · cases isOn : sensor.isOn with
    | false => simp [invariant.idle momentary (Or.inl isOn)]
    | true =>
        cases removed : sensor.removed with
        | true => simp [invariant.idle momentary (Or.inr removed)]
        | false =>
            obtain ⟨id, handle, timers⟩ := invariant.armed momentary isOn removed
            simp [timers, handle]

/-- A sensor that is told on gets its timer; a stateful one gets none. -/
theorem Invariant.turnOn (invariant : Invariant sensor account) (present : sensor.removed = false)
    (untimed : sensor.descriptor.autoClearSeconds = none → sensor.resolveAutoClearSeconds = none) :
    Invariant sensor.turnOn
      ⟨some true, sensor.now + sensor.resolveAutoClearSeconds.getD 0, none⟩ := by
  rw [Sensor.turnOn]
  rcases stateful_or_momentary sensor.descriptor with stateful | momentary
  · rw [untimed stateful]
    have apart : ¬ sensor.descriptor.autoClearSeconds.isSome := by simp [stateful]
    refine ⟨invariant.delay, fun _ => ⟨?_, rfl, (invariant.stateful stateful).2.2⟩,
      fun momentary => absurd momentary apart, fun momentary => absurd momentary apart,
      fun momentary => absurd momentary apart, fun momentary => absurd momentary apart⟩
    rintro said ⟨⟩
    rfl
  · obtain ⟨delay, positive, resolved⟩ := invariant.resolves momentary
    have apart : sensor.descriptor.autoClearSeconds ≠ none := by
      intro none
      simp [none] at momentary
    have cancelled := invariant.cancelled
    simp only [Sensor.cancelAutoClear] at cancelled
    simp only [resolved, positive.ne', if_false, Option.getD_some, Sensor.rescheduleAutoClear,
      Sensor.cancelAutoClear]
    refine ⟨invariant.delay, fun stateful => absurd stateful apart, fun _ _ _ => ?_, fun _ rests => ?_,
      ?_, fun _ => nofun⟩
    · exact ⟨sensor.handles, rfl, by simpa using cancelled⟩
    · rcases rests with off | removed
      · exact nomatch off
      · exact nomatch present.symm.trans removed
    · rintro - said ⟨⟩ -
      rfl

/-- A sensor that is told off has no timer. -/
theorem Invariant.turnOff (invariant : Invariant sensor account) :
    Invariant sensor.turnOff { account with said := some false, clearedAt := none } := by
  have cancelled : sensor.turnOff.timers = [] := invariant.cancelled
  refine ⟨invariant.delay, fun _ => ⟨?_, rfl, cancelled⟩, fun _ => nofun, fun _ _ => cancelled, ?_,
    fun _ => nofun⟩
  · rintro said ⟨⟩
    rfl
  · rintro - said ⟨⟩ -
    rfl

/-- The sensor does with a report what the report says. -/
theorem Invariant.report (invariant : Invariant sensor account) {raw : Json}
    (present : sensor.removed = false)
    (untimed : sensor.descriptor.means raw = some true →
      sensor.descriptor.autoClearSeconds = none → sensor.resolveAutoClearSeconds = none) :
    Invariant (sensor.perform (.report raw)) (account.record sensor (.report raw)) := by
  rw [Sensor.perform, Sensor.applyValue, Account.record]
  cases means : sensor.descriptor.means raw with
  | none => exact invariant
  | some said =>
      cases said with
      | true => exact invariant.turnOn present (untimed means)
      | false => exact invariant.turnOff

theorem Invariant.remove (invariant : Invariant sensor account) :
    Invariant (sensor.perform .remove) account := by
  have cancelled : (sensor.perform .remove).timers = [] := invariant.cancelled
  exact ⟨invariant.delay, fun stateful => ⟨(invariant.stateful stateful).1,
    (invariant.stateful stateful).2.1, cancelled⟩, fun _ _ => nofun, fun _ _ => cancelled,
    invariant.stays, invariant.held⟩

/-- A timer that fires is that of a momentary sensor that is on. -/
theorem Invariant.fires (invariant : Invariant sensor account) {timer : Timer}
    (live : timer ∈ sensor.timers) (due : timer.due ≤ sensor.now) :
    Invariant (sensor.perform (.fires timer)) (account.record sensor (.fires timer)) := by
  rcases stateful_or_momentary sensor.descriptor with stateful | momentary
  · rw [(invariant.stateful stateful).2.2] at live
    exact nomatch live
  · have busy : sensor.isOn = true ∧ sensor.removed = false := by
      constructor
      · refine Bool.eq_true_of_not_eq_false fun off => ?_
        rw [invariant.idle momentary (Or.inl off)] at live
        exact nomatch live
      · refine Bool.eq_false_of_not_eq_true fun removed => ?_
        rw [invariant.idle momentary (Or.inr removed)] at live
        exact nomatch live
    obtain ⟨id, -, timers⟩ := invariant.armed momentary busy.1 busy.2
    have fired : timer = ⟨id, account.due⟩ := by simpa [timers] using live
    have apart : sensor.descriptor.autoClearSeconds ≠ none := by
      intro none
      simp [none] at momentary
    simp only [Sensor.perform, Account.record, Sensor.autoClear, busy.1, if_true, Bool.not_false,
      Bool.and_self]
    refine ⟨invariant.delay, fun stateful => absurd stateful apart, fun _ => nofun, fun _ _ => ?_,
      fun _ _ _ => nofun, ?_⟩
    · simp [timers, fired]
    · rintro - time ⟨⟩
      rwa [fired] at due

/-- An untimed label keeps the invariant. -/
theorem Invariant.perform {state : State} (invariant : Invariant state.sensor state.account)
    {label : Label} (possible : Possible state.sensor label) (untimed : Untimed state label) :
    Invariant (perform state label).sensor (perform state label).account := by
  cases label with
  | clock elapsed =>
      exact ⟨invariant.delay, invariant.stateful, invariant.armed, invariant.idle, invariant.stays,
        invariant.held⟩
  | report raw => exact invariant.report possible untimed
  | fires timer => exact invariant.fires possible.1 possible.2
  | setDelay value =>
      obtain ⟨-, -, least, -⟩ := possible
      refine ⟨?_, invariant.stateful, invariant.armed, invariant.idle, invariant.stays,
        invariant.held⟩
      rintro delay ⟨⟩
      rw [minDetectionClearDelay] at least
      linarith
  | remove => exact invariant.remove

/-- In every untimed run a stateful sensor follows its reports and a momentary one its timer. -/
theorem sensor_faithful {labels : List Label} {state : State}
    (run : machine.Run Untimed labels state) : Faithful state.sensor state.account := by
  have initial (state : State) (starts : machine.initial state) :
      Invariant state.sensor state.account := by
    obtain ⟨-, delay, off, handle, timers, removed, said, cleared⟩ := starts
    refine ⟨by simp [delay], fun _ => ⟨by simp [said], cleared, timers⟩, fun momentary isOn => ?_,
      fun _ _ => timers, by simp [said], by simp [cleared]⟩
    exact nomatch (off momentary).symm.trans isOn
  have preserved (state : State) (label : Label) (next : State)
      (invariant : Invariant state.sensor state.account) (untimed : Untimed state label)
      (steps : machine.step state label next) : Invariant next.sensor next.account := by
    obtain ⟨possible, rfl⟩ := steps
    exact invariant.perform possible untimed
  exact (run.invariant initial preserved).faithful

/-- The package sensor of a camera: `1` says that a package has appeared. -/
def packageDescriptor : Descriptor := ⟨["1"], false, none, nofun⟩

/-- The motion sensor of the same camera. -/
def motionDescriptor : Descriptor := ⟨[], true, some 60, by rintro seconds ⟨⟩; norm_num⟩

/-- A sensor of the camera at setup. -/
def cameraSensor (descriptor : Descriptor) : State :=
  ⟨⟨0, descriptor, [packageDescriptor, motionDescriptor], true, none, false, none, 0, [], false⟩,
    ⟨none, 0, none⟩⟩

theorem run_cameraSensor (good : State → Label → Prop) {descriptor : Descriptor}
    (own : descriptor ∈ [packageDescriptor, motionDescriptor]) :
    machine.Run good [] (cameraSensor descriptor) :=
  .start ⟨own, rfl, fun _ => rfl, rfl, rfl, rfl, rfl, rfl⟩

/-- The motion sensor is on for its minute. -/
theorem sensor_faithful_motion :
    ∃ state : State, state.account.clearedAt = some 60 ∧ Faithful state.sensor state.account := by
  have run := (run_cameraSensor Untimed (List.mem_cons_of_mem _ List.mem_cons_self))
    |>.extend (.report (.string "3")) (fun _ => nofun) ⟨rfl, rfl⟩
    |>.extend (.clock 60) trivial ⟨by norm_num [Possible], rfl⟩
    |>.extend (.fires ⟨0, 60⟩) trivial ⟨⟨by decide +kernel, by decide +kernel⟩, rfl⟩
  exact ⟨_, by decide +kernel, sensor_faithful run⟩

/-- The camera's delay number makes a timer clear the package sensor. -/
theorem package_sensor_cleared :
    ∃ (labels : List Label) (state : State), machine.Run (fun _ _ => True) labels state ∧
      ¬ Faithful state.sensor state.account := by
  have run := (run_cameraSensor (fun _ _ => True) List.mem_cons_self)
    |>.extend (.setDelay 30) trivial ⟨⟨rfl, rfl, by norm_num [minDetectionClearDelay],
      by norm_num [maxDetectionClearDelay]⟩, rfl⟩
    |>.extend (.report (.string "1")) trivial ⟨rfl, rfl⟩
    |>.extend (.clock 30) trivial ⟨by norm_num [Possible], rfl⟩
    |>.extend (.fires ⟨0, 30⟩) trivial ⟨⟨by decide +kernel, by decide +kernel⟩, rfl⟩
  refine ⟨_, _, run, fun faithful => ?_⟩
  have shown := (faithful.stateful rfl).1 true (by decide +kernel)
  exact absurd shown (by decide +kernel)

end BinarySensor
end Reference
end AqaraLanLink
