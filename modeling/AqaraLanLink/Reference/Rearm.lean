import AqaraLanLink.Library.Runs
import Mathlib.Algebra.Order.Ring.Rat
import Mathlib.Data.Finset.Basic
import Mathlib.Tactic.Linarith
import Mathlib.Tactic.NormNum

/-!
# Re-arming the relay of a standalone device

`RearmManager` as a labelled transition system: topology pushes, sweeps and cancellations, a clock,
and the loops, which give way to each of these at every `await`.
-/

namespace AqaraLanLink
namespace Reference
namespace Rearm

open Library

/-! ## The manager -/

/-- What `_activation_targets` reads of a subentry. -/
structure Subentry where
  /-- `CONF_ACTIVATION_HOST`. -/
  activationHost : Option String
  /-- `did`. -/
  did : Option String
  /-- `CONF_ACTIVATION_PORT`. -/
  activationPort : Option ℕ

/-- Where a device is poked. -/
structure Address where
  /-- Its host. -/
  host : String
  /-- Its port. -/
  port : ℕ
  deriving DecidableEq

/-- `ACTIVATION_PORT`. -/
def activationPort : ℕ := 443

/-- `targets[did] = address`. -/
def setTarget (targets : List (String × Address)) (did : String) (address : Address) :
    List (String × Address) :=
  if targets.any fun target => target.1 = did then
    targets.map fun target => if target.1 = did then (did, address) else target
  else targets ++ [(did, address)]

/-- One turn of the loop in `_activation_targets`. -/
def addTarget (targets : List (String × Address)) (subentry : Subentry) :
    List (String × Address) :=
  match subentry.activationHost, subentry.did with
  | some host, some did =>
      if host = "" ∨ did = "" then targets
      else
        setTarget targets did ⟨host, match subentry.activationPort with
          | none => activationPort
          | some port => if port = 0 then activationPort else port⟩
  | _, _ => targets

/-- What the manager is built with. -/
structure Settings where
  /-- The subentries of the entry. -/
  subentries : List Subentry
  /-- `backoffs`. -/
  backoffs : List ℚ
  /-- `settle_timeout`. -/
  settleTimeout : ℚ
  /-- `poll_interval`. -/
  pollInterval : ℚ
  /-- `max_rounds`. -/
  maxRounds : ℕ
  /-- `absence_grace`. -/
  absenceGrace : ℚ
  /-- `rearm_cooldown`. -/
  rearmCooldown : ℚ
  /-- Whether `async_create_task` runs a task up to its first `await` before it returns. -/
  eagerStart : Bool

/-- `_activation_targets`. -/
def Settings.activationTargets (settings : Settings) : List (String × Address) :=
  settings.subentries.foldl addTarget []

/-- Where a loop stands. -/
inductive Stage where
  /-- Its task has been created and has not run yet. -/
  | created
  /-- It sleeps through the absence grace. -/
  | grace (wakes : ℚ)
  /-- It sleeps because of the cooldown. -/
  | cooling (round : ℕ) (wakes : ℚ)
  /-- It waits for `discover_hub_by_did`. -/
  | discovering (round : ℕ)
  /-- It waits for `activate_relay`. -/
  | poking (round : ℕ)
  /-- It sleeps in `_wait_for_topology`. -/
  | settling (round : ℕ) (waited wakes : ℚ)
  /-- It sleeps before the next round. -/
  | backingOff (round : ℕ) (wakes : ℚ)
  /-- Its task is done. -/
  | finished
  deriving DecidableEq

/-- When a sleeping loop is due. -/
def Stage.wakes : Stage → Option ℚ
  | .grace wakes | .cooling _ wakes | .settling _ _ wakes | .backingOff _ wakes => some wakes
  | _ => none

/-- A task that runs `_rearm_loop`. -/
structure Loop where
  /-- Its device. -/
  did : String
  /-- Whether it has been cancelled; the cancellation may not have been delivered yet. -/
  cancelled : Bool
  /-- Where it stands. -/
  stage : Stage
  /-- When it was created. -/
  startedAt : ℚ
  /-- Whether a push since then has named its device. -/
  returned : Bool

/-- The loop can still act. -/
def Loop.CanAct (loop : Loop) : Prop :=
  loop.cancelled = false ∧ loop.stage ≠ .finished

/-- A call of `activate_relay`, with what was true at that time. -/
structure Poke where
  /-- The device. -/
  did : String
  /-- The loop that pokes. -/
  loop : ℕ
  /-- Where it pokes. -/
  address : Address
  /-- When. -/
  time : ℚ
  /-- Whether the device is in the latest topology push. -/
  present : Bool
  /-- Whether a push has named it since the loop was created. -/
  returned : Bool

/-- The manager, its tasks and the history of its pokes. -/
structure Runtime where
  /-- The monotonic clock. -/
  now : ℚ
  /-- The latest topology push, in `_last_topology` and in the hub's `lanlink_topology_dids`. -/
  topology : Finset String
  /-- `_tasks`. -/
  tasks : String → Option ℕ
  /-- The tasks created so far. -/
  loops : ℕ → Option Loop
  /-- How many these are. -/
  created : ℕ
  /-- `_last_activation`. -/
  lastActivation : String → Option ℚ
  /-- The pokes, the latest first. -/
  pokes : List Poke

/-- What a loop can be resumed with. -/
inductive Event where
  /-- The task runs for the first time. -/
  | begin
  /-- A sleep is over. -/
  | wake
  /-- Discovery ends, with the host it has found. -/
  | discovered (host : Option String)
  /-- The poke is over. -/
  | poked
  /-- Discovery or the poke raises. -/
  | raises
  /-- The cancellation is delivered. -/
  | cancelDelivered
  deriving DecidableEq

/-- What happens to the manager. -/
inductive Label where
  /-- Time passes. -/
  | clock (elapsed : ℚ)
  /-- The hub pushes a topology. -/
  | push (dids : Finset String)
  /-- The interval of `sweep` is over. -/
  | sweep
  /-- The entry is unloaded. -/
  | cancelAll
  /-- A loop is resumed. -/
  | resume (id : ℕ) (event : Event)

/-! ## One round of a loop -/

/-- The start of a round of `_rearm_loop`, up to its `await`. -/
def Runtime.roundStage (settings : Settings) (runtime : Runtime) (did : String) (round : ℕ) :
    Stage :=
  if round < settings.maxRounds then
    match runtime.lastActivation did with
    | none => .discovering round
    | some last =>
        if runtime.now - last < settings.rearmCooldown then
          .cooling round (runtime.now + min (settings.rearmCooldown - (runtime.now - last)) 30)
        else .discovering round
  else .finished

/-- `_rearm_loop` up to its first `await`. -/
def Runtime.firstStage (settings : Settings) (runtime : Runtime) (did : String) : Stage :=
  if 0 < settings.absenceGrace then .grace (runtime.now + settings.absenceGrace)
  else runtime.roundStage settings did 0

/-- `_wait_for_topology` from its loop condition on, and what follows it; a missing back-off raises
an `IndexError`, which is caught. -/
def Runtime.settleStage (settings : Settings) (runtime : Runtime) (did : String) (round : ℕ)
    (waited : ℚ) : Stage :=
  if did ∈ runtime.topology then .finished
  else if waited < settings.settleTimeout then
    .settling round waited (runtime.now + settings.pollInterval)
  else
    match settings.backoffs[min round (settings.backoffs.length - 1)]? with
    | some delay => .backingOff round (runtime.now + delay)
    | none => .finished

/-- `_rearm_loop` after a sleep. -/
def Runtime.wokenStage (settings : Settings) (runtime : Runtime) (loop : Loop) : Stage :=
  match loop.stage with
  | .grace _ =>
      if loop.did ∈ runtime.topology then .finished else runtime.roundStage settings loop.did 0
  | .cooling round _ =>
      if loop.did ∈ runtime.topology then .finished
      else runtime.roundStage settings loop.did (round + 1)
  | .settling round waited _ =>
      runtime.settleStage settings loop.did round (waited + settings.pollInterval)
  | .backingOff round _ => runtime.roundStage settings loop.did (round + 1)
  | stage => stage

/-- A loop reaches its next stage. -/
def Runtime.restage (runtime : Runtime) (id : ℕ) (loop : Loop) (stage : Stage) : Runtime :=
  { runtime with loops := Function.update runtime.loops id (some { loop with stage }) }

/-- The `finally` of `_rearm_loop`, which clears its own slot. -/
def Runtime.clearSlot (runtime : Runtime) (id : ℕ) (did : String) : Runtime :=
  if runtime.tasks did = some id then
    { runtime with tasks := Function.update runtime.tasks did none }
  else runtime

/-- A loop runs up to its next stage. -/
def Runtime.proceed (runtime : Runtime) (id : ℕ) (loop : Loop) (stage : Stage) : Runtime :=
  if stage = .finished then (runtime.restage id loop stage).clearSlot id loop.did
  else runtime.restage id loop stage

/-- `_rearm_loop` from the end of discovery to the poke. -/
def Runtime.poke (settings : Settings) (runtime : Runtime) (id : ℕ) (loop : Loop) (round : ℕ)
    (host : Option String) : Runtime :=
  let stored := (settings.activationTargets.lookup loop.did).getD ⟨"", activationPort⟩
  Runtime.restage
    { runtime with
      lastActivation := Function.update runtime.lastActivation loop.did (some runtime.now)
      pokes := ⟨loop.did, id, ⟨host.getD stored.host, stored.port⟩, runtime.now,
        loop.did ∈ runtime.topology, loop.returned⟩ :: runtime.pokes }
    id loop (.poking round)

/-- When a loop can be resumed: a cancelled one only with its cancellation. -/
def Loop.Allows (loop : Loop) (now : ℚ) : Event → Prop
  | .begin => loop.cancelled = false ∧ loop.stage = .created
  | .wake => loop.cancelled = false ∧ ∃ time ∈ loop.stage.wakes, time ≤ now
  | .discovered _ => loop.cancelled = false ∧ ∃ round, loop.stage = .discovering round
  | .poked => loop.cancelled = false ∧ ∃ round, loop.stage = .poking round
  | .raises => loop.cancelled = false ∧
      ∃ round, loop.stage = .discovering round ∨ loop.stage = .poking round
  | .cancelDelivered => loop.cancelled = true ∧ loop.stage ≠ .finished

/-- A loop runs to its next `await`; one that is cancelled before it has run has no `finally`. -/
def Runtime.resume (settings : Settings) (runtime : Runtime) (id : ℕ) (loop : Loop) :
    Event → Runtime
  | .begin => runtime.proceed id loop (runtime.firstStage settings loop.did)
  | .wake => runtime.proceed id loop (runtime.wokenStage settings loop)
  | .discovered host =>
      match loop.stage with
      | .discovering round => runtime.poke settings id loop round host
      | _ => runtime
  | .poked =>
      match loop.stage with
      | .poking round => runtime.proceed id loop (runtime.settleStage settings loop.did round 0)
      | _ => runtime
  | .raises => runtime.proceed id loop .finished
  | .cancelDelivered =>
      if loop.stage = .created then runtime.restage id loop .finished
      else runtime.proceed id loop .finished

/-! ## The public operations -/

/-- Whether the task in a slot is not done. -/
def Runtime.busy (runtime : Runtime) (did : String) : Bool :=
  match (runtime.tasks did).bind runtime.loops with
  | some loop => loop.stage ≠ .finished
  | none => false

/-- A loop that has just been created. -/
def Runtime.newLoop (runtime : Runtime) (did : String) : Loop :=
  ⟨did, false, .created, runtime.now, false⟩

/-- Create a task for `_rearm_loop` and keep it in its slot. -/
def Runtime.start (settings : Settings) (runtime : Runtime) (did : String) : Runtime :=
  let added :=
    { runtime with
      loops := Function.update runtime.loops runtime.created (some (runtime.newLoop did))
      created := runtime.created + 1 }
  let ran :=
    if settings.eagerStart then
      added.proceed runtime.created (runtime.newLoop did) (runtime.firstStage settings did)
    else added
  { ran with tasks := Function.update ran.tasks did (some runtime.created) }

/-- `_ensure_rearm`. -/
def Runtime.ensureRearm (settings : Settings) (runtime : Runtime) (did : String) : Runtime :=
  if runtime.busy did then runtime else runtime.start settings did

/-- `task.cancel()` for the tasks of some loops that are not done. -/
def Runtime.cancel (runtime : Runtime) (chosen : ℕ → Loop → Bool) : Runtime :=
  { runtime with
    loops := fun id => (runtime.loops id).map fun loop =>
      if loop.stage ≠ .finished ∧ chosen id loop then { loop with cancelled := true } else loop }

/-- One turn of the loop in `note_topology`. -/
def Runtime.noteTarget (settings : Settings) (dids : Finset String) (runtime : Runtime)
    (did : String) : Runtime :=
  if did ∈ dids then
    { runtime.cancel (fun id _ => runtime.tasks did = some id) with
      tasks := Function.update runtime.tasks did none }
  else runtime.ensureRearm settings did

/-- The topology is recorded; the history of each loop notes whether its device is in it. -/
def Runtime.record (runtime : Runtime) (dids : Finset String) : Runtime :=
  { runtime with
    topology := dids
    loops := fun id => (runtime.loops id).map fun loop =>
      { loop with returned := loop.returned || decide (loop.did ∈ dids) } }

/-- `note_topology`. -/
def Runtime.noteTopology (settings : Settings) (runtime : Runtime) (dids : Finset String) :
    Runtime :=
  (settings.activationTargets.map Prod.fst).foldl (Runtime.noteTarget settings dids)
    (runtime.record dids)

/-- One turn of the loop in `sweep`. -/
def Runtime.sweepTarget (settings : Settings) (runtime : Runtime) (did : String) : Runtime :=
  if did ∈ runtime.topology then runtime else runtime.ensureRearm settings did

/-- `sweep`. -/
def Runtime.sweep (settings : Settings) (runtime : Runtime) : Runtime :=
  (settings.activationTargets.map Prod.fst).foldl (Runtime.sweepTarget settings) runtime

/-- `cancel_all`; the slot of a loop is that of its device. -/
def Runtime.cancelAll (runtime : Runtime) : Runtime :=
  { runtime.cancel (fun id loop => runtime.tasks loop.did = some id) with tasks := fun _ => none }

/-- When a label is possible. -/
def Possible (runtime : Runtime) : Label → Prop
  | .clock elapsed => 0 ≤ elapsed
  | .resume id event => ∃ loop, runtime.loops id = some loop ∧ loop.Allows runtime.now event
  | _ => True

/-- What a label does. -/
def perform (settings : Settings) (runtime : Runtime) : Label → Runtime
  | .clock elapsed => { runtime with now := runtime.now + elapsed }
  | .push dids => runtime.noteTopology settings dids
  | .sweep => runtime.sweep settings
  | .cancelAll => runtime.cancelAll
  | .resume id event =>
      match runtime.loops id with
      | some loop => runtime.resume settings id loop event
      | none => runtime

/-- The manager from its construction on. -/
def machine (settings : Settings) : Machine Runtime Label where
  initial runtime := runtime.topology = ∅ ∧ runtime.tasks = (fun _ => none) ∧
    runtime.loops = (fun _ => none) ∧ runtime.created = 0 ∧
    runtime.lastActivation = (fun _ => none) ∧ runtime.pokes = []
  step runtime label next := Possible runtime label ∧ next = perform settings runtime label

/-! ## What the manager promises -/

/-- How often a loop has poked. -/
def Runtime.pokesOf (runtime : Runtime) (id : ℕ) : ℕ :=
  runtime.pokes.countP fun poke => poke.loop = id

/-- The re-arms of a manager are safe. -/
structure Safe (settings : Settings) (runtime : Runtime) : Prop where
  /-- A device has at most one loop that can act. -/
  single : ∀ first second a b, runtime.loops first = some a → runtime.loops second = some b →
    a.did = b.did → a.CanAct → b.CanAct → first = second
  /-- No device is poked while it is in the latest push. -/
  absent : ∀ poke ∈ runtime.pokes, poke.present = false
  /-- A loop pokes its device only after the grace, and only if no push has named it meanwhile. -/
  graced : ∀ poke ∈ runtime.pokes, poke.returned = false ∧
    ∃ loop, runtime.loops poke.loop = some loop ∧ loop.did = poke.did ∧
      loop.startedAt + settings.absenceGrace ≤ poke.time
  /-- Two pokes of a device are at least the cooldown apart. -/
  apart : runtime.pokes.Pairwise fun later earlier =>
    later.did = earlier.did → earlier.time + settings.rearmCooldown ≤ later.time
  /-- A loop pokes at most `max_rounds` times. -/
  budget : ∀ id, runtime.pokesOf id ≤ settings.maxRounds
  /-- A loop that can act is in its slot. -/
  slotted : ∀ id loop, runtime.loops id = some loop → loop.CanAct →
    runtime.tasks loop.did = some id
  /-- A loop that runs, finishes or gets its cancellation leaves the slots of other loops alone. -/
  keepsSlots : ∀ id event, Possible runtime (.resume id event) → ∀ did other,
    runtime.tasks did = some other → other ≠ id →
      (perform settings runtime (.resume id event)).tasks did = some other

/-! ## What a run preserves -/

/-- What a stage says about the time and the rounds of its loop. -/
def Admits (settings : Settings) (runtime : Runtime) (loop : Loop) : Stage → Prop
  | .created => loop.startedAt ≤ runtime.now
  | .grace wakes => loop.startedAt + settings.absenceGrace ≤ wakes
  | .discovering round =>
      (loop.startedAt + settings.absenceGrace ≤ runtime.now ∧ round < settings.maxRounds) ∧
        (loop.cancelled = false → ∀ last, runtime.lastActivation loop.did = some last →
          last + settings.rearmCooldown ≤ runtime.now)
  | .cooling round _ | .poking round | .settling round _ _ | .backingOff round _ =>
      loop.startedAt + settings.absenceGrace ≤ runtime.now ∧ round < settings.maxRounds
  | .finished => True

/-- How many pokes a loop may have made. -/
def Stage.allowance (settings : Settings) : Stage → ℕ
  | .created | .grace _ => 0
  | .cooling round _ | .discovering round => round
  | .poking round | .settling round _ _ | .backingOff round _ => round + 1
  | .finished => settings.maxRounds

/-- What holds of each loop; the devices that are `pending` have not been looked at since the latest
push. -/
structure Sound (settings : Settings) (pending : List String) (runtime : Runtime) (id : ℕ)
    (loop : Loop) : Prop where
  slotted : loop.CanAct → runtime.tasks loop.did = some id
  targeted : loop.CanAct → loop.did ∈ settings.activationTargets.map Prod.fst
  absent : loop.CanAct → loop.did ∈ runtime.topology → loop.did ∈ pending
  returned : loop.CanAct → loop.returned = true → loop.did ∈ runtime.topology
  admitted : Admits settings runtime loop loop.stage
  spent : runtime.pokesOf id ≤ loop.stage.allowance settings

/-- What holds in every state of a run. -/
structure Invariant (settings : Settings) (pending : List String) (runtime : Runtime) : Prop where
  fresh : ∀ id, runtime.created ≤ id → runtime.loops id = none
  sound : ∀ id loop, runtime.loops id = some loop → Sound settings pending runtime id loop
  absent : ∀ poke ∈ runtime.pokes, poke.present = false
  graced : ∀ poke ∈ runtime.pokes, poke.returned = false ∧
    ∃ loop, runtime.loops poke.loop = some loop ∧ loop.did = poke.did ∧
      loop.startedAt + settings.absenceGrace ≤ poke.time
  apart : runtime.pokes.Pairwise fun later earlier =>
    later.did = earlier.did → earlier.time + settings.rearmCooldown ≤ later.time
  /-- The activation stamp is that of the last poke. -/
  stamped : ∀ poke ∈ runtime.pokes, poke.time ≤ runtime.now ∧
    ∃ last, runtime.lastActivation poke.did = some last ∧ poke.time ≤ last

variable {settings : Settings} {pending : List String} {runtime : Runtime}

/-- Two loops of one device that can act are in one slot. -/
theorem Invariant.single (invariant : Invariant settings pending runtime) {first second : ℕ}
    {a b : Loop} (one : runtime.loops first = some a) (two : runtime.loops second = some b)
    (same : a.did = b.did) (firstly : a.CanAct) (secondly : b.CanAct) : first = second := by
  have slot := (invariant.sound first a one).slotted firstly
  rw [same, (invariant.sound second b two).slotted secondly] at slot
  exact (Option.some.inj slot).symm

theorem Admits.allowance_le {loop : Loop} {stage : Stage}
    (admitted : Admits settings runtime loop stage) :
    stage.allowance settings ≤ settings.maxRounds := by
  cases stage with
  | created | grace _ => exact Nat.zero_le _
  | cooling _ _ => exact admitted.2.le
  | discovering _ => exact admitted.1.2.le
  | poking _ | settling _ _ _ | backingOff _ _ => exact admitted.2
  | finished => exact le_rfl

/-- What a stage says stays true later, unless the loop is on its way to a poke and its device's
activation stamp has changed. -/
theorem Admits.mono {later : Runtime} {loop loop' : Loop} {stage : Stage}
    (admitted : Admits settings runtime loop stage) (started : loop'.startedAt = loop.startedAt)
    (past : runtime.now ≤ later.now)
    (stamps : ∀ round, stage = .discovering round → loop'.cancelled = false →
      loop.cancelled = false ∧
        later.lastActivation loop'.did = runtime.lastActivation loop.did) :
    Admits settings later loop' stage := by
  have same := congrArg (· + settings.absenceGrace) started
  cases stage with
  | created => exact started.le.trans (admitted.trans past)
  | grace _ => exact same.le.trans admitted
  | discovering round =>
      obtain ⟨⟨late, left⟩, cooled⟩ := admitted
      refine ⟨⟨same.le.trans (late.trans past), left⟩, fun uncancelled last stamp => ?_⟩
      obtain ⟨before, unchanged⟩ := stamps round rfl uncancelled
      exact (cooled before last (unchanged.symm.trans stamp)).trans past
  | cooling _ _ | poking _ | settling _ _ _ | backingOff _ _ =>
      exact ⟨same.le.trans (admitted.1.trans past), admitted.2⟩
  | finished => trivial

/-- Only a loop that exists has poked. -/
theorem Invariant.pokesOf_eq_zero (invariant : Invariant settings pending runtime) {id : ℕ}
    (missing : runtime.loops id = none) : runtime.pokesOf id = 0 := by
  rw [Runtime.pokesOf, List.countP_eq_zero]
  intro poke member
  obtain ⟨-, loop, found, -⟩ := invariant.graced poke member
  simp only [decide_eq_true_eq]
  rintro rfl
  exact nomatch missing.symm.trans found

theorem Invariant.budget (invariant : Invariant settings pending runtime) (id : ℕ) :
    runtime.pokesOf id ≤ settings.maxRounds := by
  cases found : runtime.loops id with
  | none =>
      rw [invariant.pokesOf_eq_zero found]
      exact Nat.zero_le _
  | some loop =>
      have sound := invariant.sound id loop found
      exact sound.spent.trans sound.admitted.allowance_le

theorem restage_loops_self {id : ℕ} {loop : Loop} {stage : Stage} :
    (runtime.restage id loop stage).loops id = some { loop with stage } :=
  Function.update_self _ _ _

theorem restage_loops_of_ne {id other : ℕ} {loop : Loop} {stage : Stage} (apart : other ≠ id) :
    (runtime.restage id loop stage).loops other = runtime.loops other :=
  Function.update_of_ne apart _ _

/-- Clearing the slot of one task leaves another task in its slot. -/
theorem update_slot_of_ne {tasks : String → Option ℕ} {id other : ℕ} {did slot : String}
    (own : tasks did = some id) (kept : tasks slot = some other) (apart : other ≠ id) :
    Function.update tasks did none slot = some other := by
  refine (Function.update_of_ne ?_ _ _).trans kept
  rintro rfl
  exact apart (Option.some.inj (kept.symm.trans own))

theorem clearSlot_tasks_of_ne {id other : ℕ} {did slot : String}
    (kept : runtime.tasks slot = some other) (apart : other ≠ id) :
    (runtime.clearSlot id did).tasks slot = some other := by
  rw [Runtime.clearSlot]
  split
  · rename_i own
    exact update_slot_of_ne own kept apart
  · exact kept

theorem proceed_tasks_of_ne {id other : ℕ} {loop : Loop} {stage : Stage} {slot : String}
    (kept : runtime.tasks slot = some other) (apart : other ≠ id) :
    (runtime.proceed id loop stage).tasks slot = some other := by
  rw [Runtime.proceed]
  split
  · have restaged : (runtime.restage id loop stage).tasks slot = some other := kept
    exact clearSlot_tasks_of_ne restaged apart
  · exact kept

/-- A resumed loop clears no slot but its own. -/
theorem resume_tasks_of_ne {id other : ℕ} {loop : Loop} {event : Event} {slot : String}
    (kept : runtime.tasks slot = some other) (apart : other ≠ id) :
    (runtime.resume settings id loop event).tasks slot = some other := by
  cases event with
  | begin | wake | raises => exact proceed_tasks_of_ne kept apart
  | discovered host =>
      rw [Runtime.resume]
      split <;> exact kept
  | poked =>
      rw [Runtime.resume]
      split
      · exact proceed_tasks_of_ne kept apart
      · exact kept
  | cancelDelivered =>
      rw [Runtime.resume]
      split
      · exact kept
      · exact proceed_tasks_of_ne kept apart

theorem Invariant.safe (invariant : Invariant settings [] runtime) : Safe settings runtime where
  single _ _ _ _ := invariant.single
  absent := invariant.absent
  graced := invariant.graced
  apart := invariant.apart
  budget := invariant.budget
  slotted id loop found := (invariant.sound id loop found).slotted
  keepsSlots id event possible did other slot apart := by
    obtain ⟨loop, found, -⟩ := possible
    rw [perform, found]
    exact resume_tasks_of_ne slot apart

/-- A loop reaches a stage that its time, its rounds and its pokes allow. -/
theorem Invariant.restage (invariant : Invariant settings pending runtime) {id : ℕ} {loop : Loop}
    {stage : Stage} (found : runtime.loops id = some loop) (acts : stage ≠ .finished → loop.CanAct)
    (admitted : Admits settings runtime loop stage)
    (spent : runtime.pokesOf id ≤ stage.allowance settings) :
    Invariant settings pending (runtime.restage id loop stage) := by
  refine ⟨fun other unused => ?_, fun other loop' found' => ?_, invariant.absent,
    fun poke member => ?_, invariant.apart, invariant.stamped⟩
  · have apart : other ≠ id := by
      rintro rfl
      exact nomatch (invariant.fresh other unused).symm.trans found
    exact (restage_loops_of_ne apart).trans (invariant.fresh other unused)
  · by_cases own : other = id
    · subst own
      obtain rfl := Option.some.inj (restage_loops_self.symm.trans found')
      have sound := invariant.sound other loop found
      have acted (able : Loop.CanAct { loop with stage }) : loop.CanAct := acts able.2
      exact ⟨fun able => sound.slotted (acted able), fun able => sound.targeted (acted able),
        fun able => sound.absent (acted able), fun able => sound.returned (acted able),
        admitted, spent⟩
    · have sound := invariant.sound other loop' ((restage_loops_of_ne own).symm.trans found')
      exact ⟨sound.slotted, sound.targeted, sound.absent, sound.returned, sound.admitted,
        sound.spent⟩
  · obtain ⟨unseen, other, known, same, late⟩ := invariant.graced poke member
    by_cases own : poke.loop = id
    · rw [own, found] at known
      obtain rfl := Option.some.inj known
      exact ⟨unseen, { loop with stage }, by rw [own, restage_loops_self], same, late⟩
    · exact ⟨unseen, other, (restage_loops_of_ne own).trans known, same, late⟩

/-- Slots may change as long as each loop that can act stays in its own. -/
theorem Invariant.reslot (invariant : Invariant settings pending runtime)
    (tasks : String → Option ℕ)
    (kept : ∀ id loop, runtime.loops id = some loop → loop.CanAct → tasks loop.did = some id) :
    Invariant settings pending { runtime with tasks } := by
  refine ⟨invariant.fresh, fun id loop found => ?_, invariant.absent, invariant.graced,
    invariant.apart, invariant.stamped⟩
  have sound := invariant.sound id loop found
  exact ⟨kept id loop found, sound.targeted, sound.absent, sound.returned, sound.admitted,
    sound.spent⟩

theorem Invariant.proceed (invariant : Invariant settings pending runtime) {id : ℕ} {loop : Loop}
    {stage : Stage} (found : runtime.loops id = some loop) (acts : stage ≠ .finished → loop.CanAct)
    (admitted : Admits settings runtime loop stage)
    (spent : runtime.pokesOf id ≤ stage.allowance settings) :
    Invariant settings pending (runtime.proceed id loop stage) := by
  have restaged := invariant.restage found acts admitted spent
  rw [Runtime.proceed]
  split
  · rename_i finished
    subst finished
    rw [Runtime.clearSlot]
    split
    · rename_i own
      refine restaged.reslot _ fun other loop' found' able => ?_
      have apart : other ≠ id := by
        rintro rfl
        obtain rfl := Option.some.inj (restage_loops_self.symm.trans found')
        exact able.2 rfl
      exact update_slot_of_ne own ((restaged.sound other loop' found').slotted able) apart
    · exact restaged
  · exact restaged

/-- A loop that has been let through to its poke pokes. -/
theorem Invariant.addPoke (invariant : Invariant settings [] runtime) {id round : ℕ} {loop : Loop}
    (address : Address) (found : runtime.loops id = some loop) (acts : loop.CanAct)
    (poking : loop.stage = .poking round) (few : runtime.pokesOf id ≤ round)
    (cooled : ∀ last, runtime.lastActivation loop.did = some last →
      last + settings.rearmCooldown ≤ runtime.now) :
    Invariant settings []
      { runtime with
        lastActivation := Function.update runtime.lastActivation loop.did (some runtime.now)
        pokes := ⟨loop.did, id, address, runtime.now, loop.did ∈ runtime.topology, loop.returned⟩ ::
          runtime.pokes } := by
  have own := invariant.sound id loop found
  have away : loop.did ∉ runtime.topology := fun present => nomatch own.absent acts present
  have unseen : loop.returned = false :=
    Bool.eq_false_of_not_eq_true fun returned => away (own.returned acts returned)
  have late : loop.startedAt + settings.absenceGrace ≤ runtime.now := by
    have admitted := own.admitted
    rw [poking] at admitted
    exact admitted.1
  refine ⟨invariant.fresh, fun other loop' found' => ?_, ?_, ?_, ?_, ?_⟩
  · have sound := invariant.sound other loop' found'
    refine ⟨sound.slotted, sound.targeted, sound.absent, sound.returned, ?_, ?_⟩
    · refine sound.admitted.mono rfl le_rfl fun round' discovering uncancelled => ?_
      refine ⟨uncancelled, Function.update_of_ne (fun same => ?_) _ _⟩
      have able : loop'.CanAct := ⟨uncancelled, by simp [discovering]⟩
      obtain rfl := invariant.single found' found same able acts
      obtain rfl := Option.some.inj (found'.symm.trans found)
      exact nomatch discovering.symm.trans poking
    · by_cases same : id = other
      · subst same
        obtain rfl := Option.some.inj (found'.symm.trans found)
        rw [poking]
        simpa [Runtime.pokesOf, Stage.allowance] using few
      · simpa [Runtime.pokesOf, same] using sound.spent
  · rintro poke (_ | ⟨_, member⟩)
    · simpa using away
    · exact invariant.absent poke member
  · rintro poke (_ | ⟨_, member⟩)
    · exact ⟨unseen, loop, found, rfl, late⟩
    · exact invariant.graced poke member
  · refine List.pairwise_cons.mpr ⟨fun earlier member same => ?_, invariant.apart⟩
    obtain ⟨-, last, stamp, before⟩ := invariant.stamped earlier member
    have := cooled last ((congrArg runtime.lastActivation same).trans stamp)
    dsimp only
    linarith
  · rintro poke (_ | ⟨_, member⟩)
    · exact ⟨le_rfl, runtime.now, Function.update_self _ _ _, le_rfl⟩
    · obtain ⟨past, last, stamp, before⟩ := invariant.stamped poke member
      refine ⟨past, ?_⟩
      by_cases same : poke.did = loop.did
      · exact ⟨runtime.now, by simp [same], past⟩
      · exact ⟨last, (Function.update_of_ne same _ _).trans stamp, before⟩

/-- A round starts with the grace behind it. -/
theorem admits_roundStage {loop : Loop} {round : ℕ}
    (late : loop.startedAt + settings.absenceGrace ≤ runtime.now) :
    Admits settings runtime loop (runtime.roundStage settings loop.did round) := by
  rw [Runtime.roundStage]
  split
  · rename_i left
    split
    · rename_i never
      exact ⟨⟨late, left⟩, fun _ last stamp => nomatch never.symm.trans stamp⟩
    · rename_i last stamp
      split
      · exact ⟨late, left⟩
      · rename_i cooled
        refine ⟨⟨late, left⟩, fun _ last' stamp' => ?_⟩
        obtain rfl := Option.some.inj (stamp.symm.trans stamp')
        linarith
  · trivial

theorem le_allowance_roundStage {did : String} {round : ℕ} (within : round ≤ settings.maxRounds) :
    round ≤ (runtime.roundStage settings did round).allowance settings := by
  rw [Runtime.roundStage]
  split
  · split
    · exact le_rfl
    · split <;> exact le_rfl
  · exact within

theorem admits_firstStage {loop : Loop} (past : loop.startedAt ≤ runtime.now) :
    Admits settings runtime loop (runtime.firstStage settings loop.did) := by
  rw [Runtime.firstStage]
  split
  · exact add_le_add_left past _
  · rename_i none
    exact admits_roundStage (by linarith)

theorem admits_settleStage {loop : Loop} {round : ℕ} {waited : ℚ}
    (late : loop.startedAt + settings.absenceGrace ≤ runtime.now)
    (left : round < settings.maxRounds) :
    Admits settings runtime loop (runtime.settleStage settings loop.did round waited) := by
  rw [Runtime.settleStage]
  split
  · trivial
  · split
    · exact ⟨late, left⟩
    · split
      · exact ⟨late, left⟩
      · trivial

theorem le_allowance_settleStage {did : String} {round : ℕ} {waited : ℚ}
    (left : round < settings.maxRounds) :
    round + 1 ≤ (runtime.settleStage settings did round waited).allowance settings := by
  rw [Runtime.settleStage]
  split
  · exact left
  · split
    · exact le_rfl
    · split
      · exact le_rfl
      · exact left

/-- A loop that wakes reaches a stage that its time and its rounds allow. -/
theorem Sound.woken {id : ℕ} {loop : Loop} (sound : Sound settings pending runtime id loop)
    {time : ℚ} (sleeps : loop.stage.wakes = some time) (due : time ≤ runtime.now) :
    Admits settings runtime loop (runtime.wokenStage settings loop) ∧
      runtime.pokesOf id ≤ (runtime.wokenStage settings loop).allowance settings := by
  obtain ⟨-, -, -, -, admitted, spent⟩ := sound
  rw [Runtime.wokenStage]
  revert admitted spent sleeps
  cases loop.stage with
  | created | discovering _ | poking _ | finished => exact nofun
  | grace wakes =>
      rintro ⟨⟩ admitted spent
      dsimp only
      split
      · exact ⟨trivial, spent.trans (Nat.zero_le _)⟩
      · exact ⟨admits_roundStage (admitted.trans due), spent.trans (Nat.zero_le _)⟩
  | cooling round wakes =>
      rintro - ⟨late, left⟩ spent
      dsimp only
      split
      · exact ⟨trivial, spent.trans left.le⟩
      · exact ⟨admits_roundStage late,
          (spent.trans (Nat.le_succ _)).trans (le_allowance_roundStage left)⟩
  | settling round waited wakes =>
      rintro - ⟨late, left⟩ spent
      exact ⟨admits_settleStage late left, spent.trans (le_allowance_settleStage left)⟩
  | backingOff round wakes =>
      rintro - ⟨late, left⟩ spent
      exact ⟨admits_roundStage late, spent.trans (le_allowance_roundStage left)⟩

/-- A resumed loop keeps the invariant. -/
theorem Invariant.resume (invariant : Invariant settings [] runtime) {id : ℕ} {loop : Loop}
    {event : Event} (found : runtime.loops id = some loop) (allows : loop.Allows runtime.now event) :
    Invariant settings [] (runtime.resume settings id loop event) := by
  have sound := invariant.sound id loop found
  have bounded := sound.spent.trans sound.admitted.allowance_le
  have admitted := sound.admitted
  have spent := sound.spent
  cases event with
  | begin =>
      obtain ⟨uncancelled, created⟩ := allows
      rw [created] at admitted spent
      exact invariant.proceed found (fun _ => ⟨uncancelled, by simp [created]⟩)
        (admits_firstStage admitted) (spent.trans (Nat.zero_le _))
  | wake =>
      obtain ⟨uncancelled, time, sleeps, due⟩ := allows
      have goesOn : loop.stage ≠ .finished := by
        intro finished
        rw [finished] at sleeps
        exact nomatch sleeps
      obtain ⟨admitted, spent⟩ := sound.woken sleeps due
      exact invariant.proceed found (fun _ => ⟨uncancelled, goesOn⟩) admitted spent
  | discovered host =>
      obtain ⟨uncancelled, round, discovering⟩ := allows
      rw [discovering] at admitted spent
      have passed : Invariant settings [] (runtime.restage id loop (.poking round)) :=
        invariant.restage found (fun _ => ⟨uncancelled, by simp [discovering]⟩) admitted.1
          (spent.trans (Nat.le_succ _))
      have pokes : (runtime.restage id loop (.poking round)).loops id =
        some { loop with stage := .poking round } := restage_loops_self
      have poked (address : Address) :=
        passed.addPoke address pokes ⟨uncancelled, nofun⟩ rfl spent (admitted.2 uncancelled)
      simp only [Runtime.resume, discovering, Runtime.poke]
      exact poked _
  | poked =>
      obtain ⟨uncancelled, round, poking⟩ := allows
      rw [poking] at admitted spent
      simp only [Runtime.resume, poking]
      exact invariant.proceed found (fun _ => ⟨uncancelled, by simp [poking]⟩)
        (admits_settleStage admitted.1 admitted.2) (spent.trans (le_allowance_settleStage admitted.2))
  | raises => exact invariant.proceed found (fun goesOn => absurd rfl goesOn) trivial bounded
  | cancelDelivered =>
      have ends : Stage.finished ≠ .finished → loop.CanAct := fun goesOn => absurd rfl goesOn
      rw [Runtime.resume]
      split
      · exact invariant.restage found ends trivial bounded
      · exact invariant.proceed found ends trivial bounded

/-! ## The operations keep the invariant -/

/-- In a slot that is not busy there is no loop that can act. -/
theorem Invariant.did_ne_of_idle (invariant : Invariant settings pending runtime) {did : String}
    (idle : runtime.busy did = false) {id : ℕ} {loop : Loop} (found : runtime.loops id = some loop)
    (acts : loop.CanAct) : loop.did ≠ did := by
  rintro rfl
  have slot := (invariant.sound id loop found).slotted acts
  simp [Runtime.busy, slot, found, acts.2] at idle

/-- A new loop takes its slot, before it has run or at its first `await`. -/
theorem start_eq (settings : Settings) (runtime : Runtime) (did : String) : ∃ stage,
    (stage = .created ∨ stage = runtime.firstStage settings did) ∧
      runtime.start settings did =
        { runtime with
          loops := Function.update runtime.loops runtime.created
            (some { runtime.newLoop did with stage })
          created := runtime.created + 1
          tasks := Function.update runtime.tasks did (some runtime.created) } := by
  rw [Runtime.start]
  split
  · refine ⟨runtime.firstStage settings did, Or.inr rfl, ?_⟩
    rw [Runtime.proceed]
    split
    · rw [Runtime.clearSlot]
      split <;> simp [Runtime.restage, Runtime.newLoop]
    · simp [Runtime.restage]
  · exact ⟨.created, Or.inl rfl, rfl⟩

theorem Invariant.start (invariant : Invariant settings pending runtime) {did : String}
    (idle : runtime.busy did = false)
    (targeted : did ∈ settings.activationTargets.map Prod.fst)
    (away : did ∉ runtime.topology) : Invariant settings pending (runtime.start settings did) := by
  obtain ⟨stage, reached, started⟩ := start_eq settings runtime did
  have admitted : Admits settings runtime { runtime.newLoop did with stage } stage := by
    rcases reached with rfl | rfl
    · exact le_rfl
    · have past : (runtime.newLoop did).startedAt ≤ runtime.now := le_rfl
      exact admits_firstStage past
  have unused := invariant.fresh runtime.created le_rfl
  rw [started]
  refine ⟨fun id later => ?_, fun id loop found => ?_, invariant.absent, fun poke member => ?_,
    invariant.apart, invariant.stamped⟩
  · have above : runtime.created < id := later
    exact (Function.update_of_ne above.ne' _ _).trans (invariant.fresh id above.le)
  · by_cases own : id = runtime.created
    · subst own
      obtain rfl : { runtime.newLoop did with stage } = loop := by simpa using found
      refine ⟨fun _ => Function.update_self _ _ _, fun _ => targeted,
        fun _ present => absurd present away, fun _ => nofun, admitted, ?_⟩
      exact (invariant.pokesOf_eq_zero unused).le.trans (Nat.zero_le _)
    · have found' := (Function.update_of_ne own _ _).symm.trans found
      have sound := invariant.sound id loop found'
      refine ⟨fun acts => ?_, sound.targeted, sound.absent, sound.returned, sound.admitted,
        sound.spent⟩
      exact (Function.update_of_ne (invariant.did_ne_of_idle idle found' acts) _ _).trans
        (sound.slotted acts)
  · obtain ⟨unseen, loop, known, same, late⟩ := invariant.graced poke member
    refine ⟨unseen, loop, (Function.update_of_ne ?_ _ _).trans known, same, late⟩
    intro own
    exact nomatch (own ▸ unused).symm.trans known

theorem Invariant.ensureRearm (invariant : Invariant settings pending runtime) {did : String}
    (targeted : did ∈ settings.activationTargets.map Prod.fst)
    (away : did ∉ runtime.topology) :
    Invariant settings pending (runtime.ensureRearm settings did) := by
  rw [Runtime.ensureRearm]
  split
  · exact invariant
  · rename_i idle
    exact invariant.start (Bool.eq_false_of_not_eq_true idle) targeted away

/-- A loop that can act after a cancellation has not been cancelled. -/
theorem acts_of_cancel {chosen : ℕ → Loop → Bool} {id : ℕ} {loop : Loop}
    (found : (runtime.cancel chosen).loops id = some loop) (acts : loop.CanAct) :
    runtime.loops id = some loop ∧ chosen id loop = false := by
  obtain ⟨loop', found', rfl⟩ := Option.map_eq_some_iff.mp found
  split at acts
  · exact nomatch acts.1
  · rename_i spared
    rw [if_neg spared]
    refine ⟨found', Bool.eq_false_of_not_eq_true fun picked => spared ⟨?_, picked⟩⟩
    exact acts.2

/-- Cancelling loops keeps the invariant. -/
theorem Invariant.cancel (invariant : Invariant settings pending runtime)
    (chosen : ℕ → Loop → Bool) : Invariant settings pending (runtime.cancel chosen) := by
  refine ⟨fun id unused => ?_, fun id loop found => ?_, invariant.absent, fun poke member => ?_,
    invariant.apart, invariant.stamped⟩
  · simp [Runtime.cancel, invariant.fresh id unused]
  · have still (acts : loop.CanAct) := invariant.sound id loop (acts_of_cancel found acts).1
    refine ⟨fun acts => (still acts).slotted acts, fun acts => (still acts).targeted acts,
      fun acts => (still acts).absent acts, fun acts => (still acts).returned acts, ?_, ?_⟩
    · obtain ⟨loop', found', rfl⟩ := Option.map_eq_some_iff.mp found
      have admitted := (invariant.sound id loop' found').admitted
      split
      · exact admitted.mono rfl le_rfl fun _ _ => nofun
      · exact admitted
    · obtain ⟨loop', found', rfl⟩ := Option.map_eq_some_iff.mp found
      have spent := (invariant.sound id loop' found').spent
      split <;> exact spent
  · obtain ⟨unseen, loop, known, same, late⟩ := invariant.graced poke member
    refine ⟨unseen, _, Option.map_eq_some_iff.mpr ⟨loop, known, rfl⟩, ?_, ?_⟩
    · split <;> exact same
    · split <;> exact late

/-- What is pending may shrink to the devices of the present loops that can act. -/
theorem Invariant.repend {rest : List String} (invariant : Invariant settings pending runtime)
    (kept : ∀ id loop, runtime.loops id = some loop → loop.CanAct → loop.did ∈ runtime.topology →
      loop.did ∈ pending → loop.did ∈ rest) : Invariant settings rest runtime := by
  refine ⟨invariant.fresh, fun id loop found => ?_, invariant.absent, invariant.graced,
    invariant.apart, invariant.stamped⟩
  have sound := invariant.sound id loop found
  exact ⟨sound.slotted, sound.targeted,
    fun acts present => kept id loop found acts present (sound.absent acts present),
    sound.returned, sound.admitted, sound.spent⟩

/-- A target that has been looked at is not pending any more. -/
theorem Invariant.noteTarget {did : String} {rest : List String}
    (invariant : Invariant settings (did :: rest) runtime)
    (targeted : did ∈ settings.activationTargets.map Prod.fst) :
    Invariant settings rest (runtime.noteTarget settings runtime.topology did) := by
  rw [Runtime.noteTarget]
  split
  · have halted := invariant.cancel fun id _ => runtime.tasks did = some id
    have apart {id : ℕ} {loop : Loop}
        (found : (runtime.cancel fun id _ => runtime.tasks did = some id).loops id = some loop)
        (acts : loop.CanAct) : loop.did ≠ did := by
      rintro rfl
      have spared := (acts_of_cancel found acts).2
      simp only [decide_eq_false_iff_not] at spared
      exact spared ((halted.sound id loop found).slotted acts)
    have cleared := halted.reslot (Function.update runtime.tasks did none)
      fun id loop found acts => (Function.update_of_ne (apart found acts) _ _).trans
        ((halted.sound id loop found).slotted acts)
    exact cleared.repend fun id loop found acts _ member =>
      (List.mem_cons.mp member).resolve_left (apart found acts)
  · rename_i away
    have looked : Invariant settings rest runtime :=
      invariant.repend fun id loop _ _ present member =>
        (List.mem_cons.mp member).resolve_left (by rintro rfl; exact away present)
    exact looked.ensureRearm targeted away

theorem ensureRearm_topology {did : String} :
    (runtime.ensureRearm settings did).topology = runtime.topology := by
  rw [Runtime.ensureRearm]
  split
  · rfl
  · obtain ⟨stage, -, started⟩ := start_eq settings runtime did
    rw [started]

theorem noteTarget_topology {dids : Finset String} {did : String} :
    (runtime.noteTarget settings dids did).topology = runtime.topology := by
  rw [Runtime.noteTarget]
  split
  · rfl
  · exact ensureRearm_topology

/-- When every target has been looked at, nothing is pending. -/
theorem Invariant.noteTargets {dids : List String} {runtime : Runtime}
    (invariant : Invariant settings dids runtime)
    (targeted : ∀ did ∈ dids, did ∈ settings.activationTargets.map Prod.fst) :
    Invariant settings [] (dids.foldl (Runtime.noteTarget settings runtime.topology) runtime) := by
  induction dids generalizing runtime with
  | nil => exact invariant
  | cons did dids induction =>
      have looked := invariant.noteTarget (targeted did List.mem_cons_self)
      have rest := induction looked fun other member => targeted other (List.mem_cons_of_mem _ member)
      rwa [noteTarget_topology] at rest

/-- After a push every target is pending. -/
theorem Invariant.record (invariant : Invariant settings [] runtime) (dids : Finset String) :
    Invariant settings (settings.activationTargets.map Prod.fst) (runtime.record dids) := by
  refine ⟨fun id unused => ?_, fun id loop found => ?_, invariant.absent, fun poke member => ?_,
    invariant.apart, invariant.stamped⟩
  · simp [Runtime.record, invariant.fresh id unused]
  · obtain ⟨loop', found', rfl⟩ := Option.map_eq_some_iff.mp found
    have sound := invariant.sound id loop' found'
    refine ⟨sound.slotted, sound.targeted, fun acts _ => sound.targeted acts, fun acts named => ?_,
      sound.admitted.mono rfl le_rfl fun _ _ uncancelled => ⟨uncancelled, rfl⟩, sound.spent⟩
    rcases Bool.or_eq_true_iff.mp named with before | now
    · exact nomatch sound.absent acts (sound.returned acts before)
    · exact of_decide_eq_true now
  · obtain ⟨unseen, loop, known, same, late⟩ := invariant.graced poke member
    exact ⟨unseen, _, Option.map_eq_some_iff.mpr ⟨loop, known, rfl⟩, same, late⟩

theorem Invariant.sweepTargets {dids : List String} {runtime : Runtime}
    (invariant : Invariant settings [] runtime)
    (targeted : ∀ did ∈ dids, did ∈ settings.activationTargets.map Prod.fst) :
    Invariant settings [] (dids.foldl (Runtime.sweepTarget settings) runtime) := by
  induction dids generalizing runtime with
  | nil => exact invariant
  | cons did dids induction =>
      refine induction ?_ fun other member => targeted other (List.mem_cons_of_mem _ member)
      rw [Runtime.sweepTarget]
      split
      · exact invariant
      · rename_i away
        exact invariant.ensureRearm (targeted did List.mem_cons_self) away

theorem Invariant.cancelAll (invariant : Invariant settings [] runtime) :
    Invariant settings [] runtime.cancelAll := by
  have halted := invariant.cancel fun id loop => runtime.tasks loop.did = some id
  refine halted.reslot _ fun id loop found acts => ?_
  have spared := (acts_of_cancel found acts).2
  simp only [decide_eq_false_iff_not] at spared
  exact absurd ((halted.sound id loop found).slotted acts) spared

/-- Time passes. -/
theorem Invariant.clock (invariant : Invariant settings [] runtime) {elapsed : ℚ}
    (forwards : 0 ≤ elapsed) :
    Invariant settings [] { runtime with now := runtime.now + elapsed } := by
  have later : runtime.now ≤ runtime.now + elapsed := by linarith
  refine ⟨invariant.fresh, fun id loop found => ?_, invariant.absent, invariant.graced,
    invariant.apart, fun poke member => ?_⟩
  · have sound := invariant.sound id loop found
    exact ⟨sound.slotted, sound.targeted, sound.absent, sound.returned,
      sound.admitted.mono rfl later fun _ _ uncancelled => ⟨uncancelled, rfl⟩, sound.spent⟩
  · obtain ⟨past, stamp⟩ := invariant.stamped poke member
    exact ⟨past.trans later, stamp⟩

/-- Every label keeps the invariant. -/
theorem Invariant.perform (invariant : Invariant settings [] runtime) {label : Label}
    (possible : Possible runtime label) : Invariant settings [] (perform settings runtime label) := by
  cases label with
  | clock elapsed => exact invariant.clock possible
  | push dids => exact (invariant.record dids).noteTargets fun _ member => member
  | sweep => exact invariant.sweepTargets fun _ member => member
  | cancelAll => exact invariant.cancelAll
  | resume id event =>
      obtain ⟨loop, found, allows⟩ := possible
      rw [Rearm.perform, found]
      exact invariant.resume found allows

/-- In every run the re-arms are safe. -/
theorem rearm_safe (settings : Settings) {labels : List Label} {runtime : Runtime}
    (run : (machine settings).Run (fun _ _ => True) labels runtime) : Safe settings runtime := by
  refine Invariant.safe (run.invariant ?_ ?_)
  · rintro runtime ⟨-, -, loops, -, -, pokes⟩
    refine ⟨by simp [loops], by simp [loops], by simp [pokes], by simp [pokes], by simp [pokes],
      by simp [pokes]⟩
  · rintro runtime label next invariant - ⟨possible, rfl⟩
    exact invariant.perform possible

/-- The defaults of the constructor, with one standalone device. -/
def presenceSettings : Settings :=
  ⟨[⟨some "192.0.2.7", some "lumi1", none⟩], [5, 15, 30, 60], 20, 2, 6, 15, 90, true⟩

/-- The manager at setup. -/
def atSetup : Runtime := ⟨1000, ∅, fun _ => none, fun _ => none, 0, fun _ => none, []⟩

/-- The device is absent at setup, is poked after the grace, and comes back. -/
theorem rearm_safe_presence : ∃ runtime,
    runtime.pokes.map (fun poke => (poke.did, poke.time)) = [("lumi1", 1018)] ∧
      Safe presenceSettings runtime := by
  have run := (Machine.Run.start ⟨rfl, rfl, rfl, rfl, rfl, rfl⟩ :
      (machine presenceSettings).Run (fun _ _ => True) [] atSetup)
    |>.extend (.push ∅) trivial ⟨trivial, rfl⟩
    |>.extend (.clock 15) trivial ⟨by norm_num [Possible], rfl⟩
    |>.extend (.resume 0 .wake) trivial ⟨⟨_, rfl, rfl, 1015, by decide +kernel, by decide +kernel⟩, rfl⟩
    |>.extend (.clock 3) trivial ⟨by norm_num [Possible], rfl⟩
    |>.extend (.resume 0 (.discovered none)) trivial ⟨⟨_, rfl, rfl, 0, by decide +kernel⟩, rfl⟩
    |>.extend (.push {"lumi1"}) trivial ⟨trivial, rfl⟩
  exact ⟨_, by decide +kernel, rearm_safe presenceSettings run⟩

end Rearm
end Reference
end AqaraLanLink
