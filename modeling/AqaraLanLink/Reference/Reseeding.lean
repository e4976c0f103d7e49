import AqaraLanLink.Reference.Delivery

/-!
# Seeding on every pass

A device whose traits are read again and again by `_subscribe_and_seed_traits`, while entities
register and reports arrive, as a labelled transition system.
-/

namespace AqaraLanLink
namespace Reference
namespace Reseeding

open Library Delivery

/-! ## The machine -/

/-- What happens to the device. -/
inductive Label where
  /-- A batch of a pass has been read: the wire paths with the text of their values, when they have
  one. -/
  | read (readings : List (String × Option String))
  /-- The hub reports values. -/
  | report (values : List (String × Json))
  /-- An entity registers for a descriptor. -/
  | registerEntity (descriptor : Descriptor)

/-- The device and what has arrived for it. -/
structure State where
  /-- The device. -/
  device : Device
  /-- The seeds and reports, in order. -/
  arrivals : List Arrival

/-- The seeds of a batch: `_subscribe_and_seed_traits` skips entries without a path or a value. -/
def seedsOf (readings : List (String × Option String)) : List (String × Json) :=
  readings.filterMap fun reading =>
    match reading with
    | (_, none) => none
    | (path, some text) => if path = "" ∨ text = "" then none else some (path, .string text)

/-- The calls of `seed_initial_value` for a batch. -/
def seedAll (device : Device) (seeds : List (String × Json)) : Device :=
  seeds.foldl (fun device seed => device.seedInitialValue seed.1 seed.2) device

/-- When a label is possible. -/
def Possible (state : State) : Label → Prop
  | .registerEntity descriptor => descriptor ∈ state.device.descriptors
  | _ => True

/-- What a label does. -/
def perform (state : State) : Label → State
  | .read readings =>
      { device := seedAll state.device (seedsOf readings)
        arrivals := state.arrivals ++ (seedsOf readings).map fun seed => .seed seed.1 seed.2 }
  | .report values =>
      { device := state.device.handleReport values
        arrivals := state.arrivals ++ [.report values] }
  | .registerEntity descriptor =>
      { state with
        device :=
          if known : descriptor ∈ state.device.descriptors then
            state.device.registerEntity descriptor known
          else state.device }

/-- A device from its construction on. -/
def machine : Machine State Label where
  initial state := state.device.entities = [] ∧
    (∀ path, state.device.pendingInitialValues path = []) ∧
    state.device.deliveredInitialValues = [] ∧ state.arrivals = []
  step state label next := Possible state label ∧ next = perform state label

/-! ## What the passes promise -/

/-- What an arrival makes the value that was read last and not superseded by a report. -/
def updateRead (path : String) (held : Option Json) : Arrival → Option Json
  | .report values =>
      if values.any fun entry => canonicalizeReportKey entry.1 = path then none else held
  | .seed other value => if other = path then some value else held

/-- The value that was read last for a wire path, unless a report has superseded it. -/
def lastRead (arrivals : List Arrival) (path : String) : Option Json :=
  arrivals.foldl (updateRead path) none

/-- What the documentation promises for every reconnect. -/
structure Reseeded (state : State) : Prop where
  /-- A value that was read is shown, unless a report supersedes it. -/
  shown : ∀ descriptor ∈ state.device.entities, descriptor.shouldReplaySeed = true →
    ∀ path ∈ descriptor.wirePaths, ∀ value, lastRead state.arrivals path = some value →
      state.device.given descriptor path = some value
  /-- No wire path has more than one staged seed. -/
  bounded : ∀ path, (state.device.pendingInitialValues path).length ≤ 1

/-- The values that a batch seeds for a wire path. -/
def valuesFor (seeds : List (String × Json)) (path : String) : List Json :=
  (seeds.filter fun seed => seed.1 = path).map Prod.snd

/-- A batch seeds only what the entities show already, and stages no second value; an entity does
not register after the value of one of its wire paths has been delivered, unless a report has
superseded it. -/
def Fresh (state : State) : Label → Prop
  | .read readings => ∀ path, valuesFor (seedsOf readings) path ≠ [] →
      (∀ descriptor ∈ state.device.entities, descriptor.shouldReplaySeed = true →
        path ∈ descriptor.wirePaths →
        state.device.given descriptor path = (valuesFor (seedsOf readings) path).getLast?) ∧
      (path ∈ state.device.deliveredInitialValues ∨
        (state.device.pendingInitialValues path).length +
          (valuesFor (seedsOf readings) path).length ≤ 1)
  | .report _ => True
  | .registerEntity descriptor => descriptor.shouldReplaySeed = true →
      ∀ path ∈ descriptor.wirePaths, path ∈ state.device.deliveredInitialValues →
        lastRead state.arrivals path = none

/-! ## What the steps do -/

theorem valuesFor_cons (seed : String × Json) (seeds : List (String × Json)) (path : String) :
    valuesFor (seed :: seeds) path =
      if seed.1 = path then seed.2 :: valuesFor seeds path else valuesFor seeds path := by
  rw [valuesFor, List.filter_cons]
  by_cases same : seed.1 = path
  · simp [same, valuesFor]
  · simp [same, valuesFor]

theorem lastRead_append (arrivals : List Arrival) (arrival : Arrival) (path : String) :
    lastRead (arrivals ++ [arrival]) path = updateRead path (lastRead arrivals path) arrival := by
  simp [lastRead]

/-- A batch makes its last value for a wire path the one that was read last. -/
theorem lastRead_seeds (arrivals : List Arrival) (seeds : List (String × Json)) (path : String) :
    lastRead (arrivals ++ seeds.map fun seed => .seed seed.1 seed.2) path =
      (valuesFor seeds path).getLast?.or (lastRead arrivals path) := by
  induction seeds generalizing arrivals with
  | nil => simp [valuesFor]
  | cons seed seeds induction =>
      rw [List.map_cons, List.append_cons, induction, lastRead_append, valuesFor_cons, updateRead]
      by_cases same : seed.1 = path
      · simp only [same, if_true, List.getLast?_cons]
        cases (valuesFor seeds path).getLast? with
        | none => rfl
        | some value => rfl
      · simp [same]

theorem named_seedsOf (readings : List (String × Option String)) :
    ∀ seed ∈ seedsOf readings, seed.1 ≠ "" := by
  intro seed member
  obtain ⟨⟨path, text⟩, -, kept⟩ := List.mem_filterMap.mp member
  cases text with
  | none => exact nomatch kept
  | some text =>
      simp only [Option.ite_none_left_eq_some] at kept
      rw [← Option.some.inj kept.2]
      exact fun empty => kept.1 (Or.inl empty)

/-- A batch stages its values for a wire path, unless a seed has been delivered for it. -/
theorem seedAll_spec (device : Device) {seeds : List (String × Json)}
    (named : ∀ seed ∈ seeds, seed.1 ≠ "") :
    (seedAll device seeds).entities = device.entities ∧
      (seedAll device seeds).given = device.given ∧
      (seedAll device seeds).deliveredInitialValues = device.deliveredInitialValues ∧
      ∀ path, (seedAll device seeds).pendingInitialValues path =
        if path ∈ device.deliveredInitialValues then device.pendingInitialValues path
        else device.pendingInitialValues path ++ valuesFor seeds path := by
  induction seeds generalizing device with
  | nil => exact ⟨rfl, rfl, rfl, fun path => by simp [seedAll, valuesFor]⟩
  | cons seed seeds induction =>
      have step : seedAll device (seed :: seeds) =
          seedAll (device.seedInitialValue seed.1 seed.2) seeds := rfl
      have others : ∀ other ∈ seeds, other.1 ≠ "" :=
        fun other member => named other (List.mem_cons_of_mem _ member)
      by_cases before : seed.1 ∈ device.deliveredInitialValues
      · have same : device.seedInitialValue seed.1 seed.2 = device := if_pos (Or.inr before)
        obtain ⟨entities, given, delivered, pending⟩ := induction device others
        rw [step, same]
        refine ⟨entities, given, delivered, fun path => ?_⟩
        rw [pending path, valuesFor_cons]
        by_cases same : seed.1 = path
        · simp [← same, before]
        · simp [same]
      · have first : seed.1 ≠ "" := named seed List.mem_cons_self
        let after : Device :=
          { device with
            pendingInitialValues := Function.update device.pendingInitialValues seed.1
              (device.pendingInitialValues seed.1 ++ [seed.2]) }
        have staged : device.seedInitialValue seed.1 seed.2 = after :=
          if_neg (by simp [first, before])
        obtain ⟨entities, given, delivered, pending⟩ := induction after others
        rw [step, staged]
        refine ⟨entities, given, delivered, fun path => (pending path).trans ?_⟩
        rw [valuesFor_cons]
        by_cases same : seed.1 = path
        · subst same
          simp [after, before]
        · simp [after, Function.update_of_ne (Ne.symm same), same]

/-- What is staged for a wire path after a step of `register_entity`: what was staged, or nothing;
and what was staged as long as no seed has been delivered for the path. -/
def KeepsStaged (before after : Device) (path : String) : Prop :=
  (after.pendingInitialValues path = before.pendingInitialValues path ∨
    after.pendingInitialValues path = []) ∧
    (path ∉ after.deliveredInitialValues → path ∉ before.deliveredInitialValues ∧
      after.pendingInitialValues path = before.pendingInitialValues path)

theorem KeepsStaged.trans {before between after : Device} {path : String}
    (first : KeepsStaged before between path) (second : KeepsStaged between after path) :
    KeepsStaged before after path := by
  refine ⟨?_, fun waiting => ?_⟩
  · rcases second.1 with same | empty
    · rw [same]
      exact first.1
    · exact Or.inr empty
  · obtain ⟨stillWaiting, same⟩ := second.2 waiting
    obtain ⟨before, earlier⟩ := first.2 stillWaiting
    exact ⟨before, same.trans earlier⟩

theorem keepsStaged_deliverPath {device : Device} {descriptor : Descriptor}
    (bound : descriptor ∈ device.entities) (first path : String) :
    KeepsStaged device (deliverPath device descriptor first) path := by
  rcases deliverPath_cases bound first with ⟨-, same⟩ | ⟨value, -, same⟩
  · rw [same]
    exact ⟨Or.inl rfl, fun waiting => ⟨waiting, rfl⟩⟩
  · rw [KeepsStaged, same]
    dsimp only
    by_cases own : path = first
    · subst own
      exact ⟨Or.inr (Function.update_self ..), fun waiting => absurd List.mem_cons_self waiting⟩
    · rw [Function.update_of_ne own]
      exact ⟨Or.inl rfl, fun waiting => ⟨fun member => waiting (List.mem_cons_of_mem _ member), rfl⟩⟩

theorem keepsStaged_deliverSeeds {device : Device} {descriptor : Descriptor}
    (bound : descriptor ∈ device.entities) (paths : List String) (path : String) :
    KeepsStaged device (device.deliverSeeds descriptor paths) path := by
  induction paths generalizing device with
  | nil => exact ⟨Or.inl rfl, fun waiting => ⟨waiting, rfl⟩⟩
  | cons first paths induction =>
      have stays : descriptor ∈ (deliverPath device descriptor first).entities := by
        rw [(deliverPath_spec bound first).1]
        exact bound
      rw [deliverSeeds_cons]
      exact (keepsStaged_deliverPath bound first path).trans (induction stays)

/-- Registration keeps what is staged or uses it up. -/
theorem keepsStaged_registerEntity {device : Device} {descriptor : Descriptor}
    (known : descriptor ∈ device.descriptors) (path : String) :
    KeepsStaged device (device.registerEntity descriptor known) path :=
  keepsStaged_deliverSeeds (mem_entities_bindEntity known) descriptor.wirePaths path

/-- A report keeps what is staged. -/
theorem pending_handleReport (device : Device) (values : List (String × Json)) :
    (device.handleReport values).pendingInitialValues = device.pendingInitialValues ∧
      (device.handleReport values).deliveredInitialValues = device.deliveredInitialValues := by
  rw [Device.handleReport_eq_withGiven]
  exact ⟨rfl, rfl⟩

/-! ## What a run preserves -/

/-- What holds in every state of a run of fresh steps. -/
structure Invariant (state : State) : Prop where
  shown : ∀ descriptor ∈ state.device.entities, descriptor.shouldReplaySeed = true →
    ∀ path ∈ descriptor.wirePaths, ∀ value, lastRead state.arrivals path = some value →
      state.device.given descriptor path = some value
  bounded : ∀ path, (state.device.pendingInitialValues path).length ≤ 1
  /-- A value that was read and not delivered is staged. -/
  waits : ∀ path, path ∉ state.device.deliveredInitialValues → ∀ value,
    lastRead state.arrivals path = some value →
      (state.device.pendingInitialValues path).getLast? = some value

theorem Invariant.reseeded {state : State} (invariant : Invariant state) : Reseeded state :=
  ⟨invariant.shown, invariant.bounded⟩

variable {state : State}

theorem Invariant.report (invariant : Invariant state) (values : List (String × Json)) :
    Invariant (perform state (.report values)) := by
  obtain ⟨pending, delivered⟩ := pending_handleReport state.device values
  -- A value that is still the last one read is not among those reported.
  have silent : ∀ path value, lastRead (state.arrivals ++ [.report values]) path = some value →
      lastRead state.arrivals path = some value ∧
        ∀ held, Json.lastValue (fun raw => canonicalizeReportKey raw = path) values held = held := by
    intro path value read
    rw [lastRead_append, updateRead] at read
    split at read
    · exact nomatch read
    · rename_i absent
      exact ⟨read, Json.lastValue_of_silent (by simpa using absent)⟩
  refine ⟨fun descriptor member stateful path watched value read => ?_, ?_, ?_⟩
  · obtain ⟨before, kept⟩ := silent path value read
    have bound : descriptor ∈ state.device.entities := by
      rwa [perform, entities_handleReport] at member
    exact (given_handleReport bound watched values).trans
      ((kept _).trans (invariant.shown descriptor bound stateful path watched value before))
  · rw [perform, pending]
    exact invariant.bounded
  · intro path waiting value read
    rw [perform, delivered] at waiting
    rw [perform, pending]
    exact invariant.waits path waiting value (silent path value read).1

theorem Invariant.read (invariant : Invariant state) (readings : List (String × Option String))
    (fresh : Fresh state (.read readings)) : Invariant (perform state (.read readings)) := by
  obtain ⟨entities, given, delivered, pending⟩ :=
    seedAll_spec state.device (named_seedsOf readings)
  refine ⟨fun descriptor member stateful path watched value read => ?_, fun path => ?_,
    fun path waiting value read => ?_⟩
  · rw [perform, entities] at member
    rw [perform, given]
    rw [perform, lastRead_seeds] at read
    by_cases none : valuesFor (seedsOf readings) path = []
    · rw [none] at read
      exact invariant.shown descriptor member stateful path watched value read
    · rw [(fresh path none).1 descriptor member stateful watched]
      rwa [List.getLast?_eq_some_getLast none] at read ⊢
  · rw [perform, pending path]
    by_cases none : valuesFor (seedsOf readings) path = []
    · simpa [none] using invariant.bounded path
    · split
      · exact invariant.bounded path
      · rename_i waiting
        simpa using (fresh path none).2.resolve_left waiting
  · rw [perform, delivered] at waiting
    rw [perform, lastRead_seeds] at read
    rw [perform, pending path, if_neg waiting, List.getLast?_append]
    cases last : (valuesFor (seedsOf readings) path).getLast? with
    | none =>
        rw [last] at read
        simpa using invariant.waits path waiting value read
    | some newest =>
        rw [last] at read
        simpa using read

theorem Invariant.registerEntity (invariant : Invariant state) {descriptor : Descriptor}
    (known : descriptor ∈ state.device.descriptors)
    (fresh : Fresh state (.registerEntity descriptor)) :
    Invariant (perform state (.registerEntity descriptor)) := by
  obtain ⟨entities, others, seeds⟩ := given_registerEntity known
  have staged := keepsStaged_registerEntity known
  rw [perform, dif_pos known]
  refine ⟨fun other member stateful path watched value read => ?_, fun path => ?_,
    fun path waiting value read => ?_⟩
  · rw [entities] at member
    by_cases same : other = descriptor
    · subst same
      have waiting : path ∉ state.device.deliveredInitialValues := fun delivered =>
        nomatch (fresh stateful path watched delivered).symm.trans read
      rw [seeds stateful path watched, Delivery.staged, if_neg waiting]
      exact invariant.waits path waiting value read
    · have before := List.mem_of_ne_of_mem same member
      simp only [others other same]
      exact invariant.shown other before stateful path watched value read
  · rcases (staged path).1 with same | empty
    · simp only [same]
      exact invariant.bounded path
    · simp [empty]
  · obtain ⟨before, same⟩ := (staged path).2 waiting
    simp only [same]
    exact invariant.waits path before value read

/-- In every run of fresh steps, every value that was read is shown until a report supersedes it,
and no wire path has more than one staged seed. -/
theorem passes_reseed {labels : List Label} {state : State}
    (run : machine.Run Fresh labels state) : Reseeded state := by
  refine Invariant.reseeded (run.invariant ?_ ?_)
  · rintro ⟨device, arrivals⟩ ⟨entities, pending, -, rfl⟩
    simp only at entities pending
    refine ⟨fun descriptor member => ?_, fun path => by simp [pending path], nofun⟩
    rw [entities] at member
    exact nomatch member
  · rintro state label next invariant fresh ⟨possible, rfl⟩
    cases label with
    | read readings => exact invariant.read readings fresh
    | report values => exact invariant.report values
    | registerEntity descriptor => exact invariant.registerEntity possible fresh

/-- The lamp before its first pass. -/
def lampState : State := ⟨lampSetup.device, []⟩

/-- A batch that reads the lamp's power. -/
def powerRead (text : String) : Label := .read [("2.132.32920", some text)]

theorem run_lampState (good : State → Label → Prop) : machine.Run good [] lampState :=
  .start ⟨rfl, fun _ => rfl, rfl, rfl⟩

theorem passes_reseed_lamp :
    Reseeded (perform (perform lampState (powerRead "0")) (.registerEntity lampSwitch)) := by
  refine passes_reseed <| (run_lampState Fresh)
    |>.extend (powerRead "0") (fun path _ => ⟨nofun, Or.inr ?_⟩) ⟨trivial, rfl⟩
    |>.extend (.registerEntity lampSwitch) (fun _ _ _ => nofun) ⟨List.mem_singleton.mpr rfl, rfl⟩
  have once : seedsOf [("2.132.32920", some "0")] = [("2.132.32920", .string "0")] := rfl
  rw [once, valuesFor, List.length_map]
  have few := List.length_filter_le
    (fun seed : String × Json => decide (seed.1 = path)) [("2.132.32920", .string "0")]
  simpa [lampState, lampSetup] using few

/-- A pass after the entity has been given its first seed changes nothing. -/
theorem second_pass_ignored :
    ∃ labels state, machine.Run (fun _ _ => True) labels state ∧ ¬ Reseeded state := by
  refine ⟨_, _, (run_lampState fun _ _ => True)
    |>.extend (powerRead "0") trivial ⟨trivial, rfl⟩
    |>.extend (.registerEntity lampSwitch) trivial ⟨List.mem_singleton.mpr rfl, rfl⟩
    |>.extend (powerRead "1") trivial ⟨trivial, rfl⟩, fun reseeded => ?_⟩
  have shown := reseeded.shown lampSwitch (List.mem_singleton.mpr rfl) rfl "2.132.32920"
    (List.mem_singleton.mpr rfl) (.string "1") rfl
  have first : some (Json.string "0") = some (.string "1") := shown
  simp at first

end Reseeding
end Reference
end AqaraLanLink
