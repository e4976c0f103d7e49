import AqaraLanLink.Port.MatterTwin
import AqaraLanLink.Library.Runs
import AqaraLanLink.Library.Dictionary

/-!
# Convergence of Matter's view

A device that is published over Matter as a labelled transition system: values that the device
records, the end of the accessory's registration, and the ends of the updates.  Matter shows the
registered clusters overlaid by the updates that succeeded.
-/

namespace AqaraLanLink
namespace Port

open Library

/-! ## What a report says -/

namespace Clusters

/-- What one cluster of a list shows. -/
def tells (entry : String × List (String × Attribute)) : Shown := cluster entry.1 entry.2

theorem shown_cons (name : String) (attributes : List (String × Attribute)) (clusters : Clusters)
    (key : String × String) :
    shown ((name, attributes) :: clusters) key =
      if key.1 = name then attributes.lookup key.2 else clusters.shown key := by
  rw [shown, List.lookup_cons]
  cases same : key.1 == name with
  | true => rw [if_pos (beq_iff_eq.mp same)]; rfl
  | false => rw [if_neg (beq_eq_false_iff_ne.mp same)]; rfl

/-- Clusters of distinct names are laid over a view one after the other as at once. -/
theorem overlayAll_tells {clusters : Clusters} (distinct : (clusters.map Prod.fst).Nodup)
    (view : Shown) : overlayAll tells view clusters = overlay view clusters.shown := by
  induction clusters generalizing view with
  | nil => rfl
  | cons entry clusters induction =>
      obtain ⟨name, attributes⟩ := entry
      obtain ⟨fresh, others⟩ := List.nodup_cons.mp distinct
      have later := induction others (overlay view (cluster name attributes))
      change overlayAll tells (overlay view (cluster name attributes)) clusters = _
      rw [later]
      funext key
      rw [overlay, overlay, overlay, shown_cons, cluster]
      split
      · rename_i same
        have absent : shown clusters key = none := by
          rw [shown, same, lookup_of_not_mem fresh]
          rfl
        rw [absent, Option.none_or]
      · rw [Option.none_or]

/-- Clusters of distinct names, each with distinct attributes. -/
structure Distinct (clusters : Clusters) : Prop where
  names : (clusters.map Prod.fst).Nodup
  attributes : ∀ entry ∈ clusters, (entry.2.map Prod.fst).Nodup

/-- Which attributes are shown depends on the names alone. -/
theorem shown_isSome (clusters : Clusters) (key : String × String) :
    (clusters.shown key).isSome =
      ((clusters.map fun entry => (entry.1, entry.2.map Prod.fst)).lookup key.1).any fun names =>
        decide (key.2 ∈ names) := by
  induction clusters with
  | nil => rfl
  | cons entry clusters induction =>
      obtain ⟨name, attributes⟩ := entry
      rw [shown_cons, List.map_cons, List.lookup_cons]
      split
      · rename_i same
        rw [same, beq_self_eq_true, Option.any_some, Bool.eq_iff_iff, List.lookup_isSome_iff,
          decide_eq_true_iff, List.mem_map]
        exact exists_congr fun entry => and_congr_right fun _ => beq_iff_eq.trans eq_comm
      · rename_i other
        rw [beq_eq_false_iff_ne.mpr other]
        exact induction

theorem mem_given {present : Bool} {name : String} {attributes : List (String × Attribute)}
    {entry : String × List (String × Attribute)} (member : entry ∈ given present name attributes) :
    entry = (name, attributes) := by
  cases present with
  | false => cases member
  | true => exact List.mem_singleton.mp member

theorem names_given (present : Bool) (name : String) (attributes : List (String × Attribute)) :
    ((given present name attributes).map Prod.fst).Sublist [name] := by
  cases present with
  | false => exact List.nil_sublist _
  | true => exact List.Sublist.refl _

end Clusters

namespace MatterTwin

/-- The clusters of a device have distinct names, each with distinct attributes. -/
theorem distinct_clusters (textual : Json → Option ℚ) (device : AqaraDevice) :
    (clusters textual device).Distinct := by
  constructor
  · have names : ((clusters textual device).map Prod.fst).Sublist
        ["onOff", "levelControl", "colorControl", "booleanState", "temperatureMeasurement",
          "relativeHumidityMeasurement"] := by
      simp only [clusters, List.map_append]
      exact (((((Clusters.names_given _ _ _).append (Clusters.names_given _ _ _)).append
        (Clusters.names_given _ _ _)).append (Clusters.names_given _ _ _)).append
        (Clusters.names_given _ _ _)).append (Clusters.names_given _ _ _)
    exact List.Nodup.sublist names (by simp)
  · intro entry member
    simp only [clusters, List.mem_append] at member
    rcases member with ((((power | level) | colour) | contact) | warmth) | humidity
    · simp [Clusters.mem_given power]
    · simp [Clusters.mem_given level]
    · simp [Clusters.mem_given colour]
    · simp [Clusters.mem_given contact]
    · simp [Clusters.mem_given warmth]
    · simp [Clusters.mem_given humidity]

/-- A new value does not change which attributes there are. -/
theorem shown_isSome_setState (textual : Json → Option ℚ) (device : AqaraDevice) (code : String)
    (value : Json) (key : String × String) :
    ((clusters textual (device.setState code value)).shown key).isSome =
      ((clusters textual device).shown key).isSome := by
  have names : ∀ present name (left right : List (String × Attribute)),
      left.map Prod.fst = right.map Prod.fst →
      (Clusters.given present name left).map (fun entry => (entry.1, entry.2.map Prod.fst)) =
        (Clusters.given present name right).map fun entry => (entry.1, entry.2.map Prod.fst) := by
    intro present name left right same
    cases present with
    | false => rfl
    | true => simp [Clusters.given, same]
  rw [Clusters.shown_isSome, Clusters.shown_isSome]
  congr 2
  simp only [clusters, List.map_append]
  congr 1
  · congr 1
    · congr 1
      · congr 1
        · congr 1
          · exact names _ _ _ _ rfl
          · exact names _ _ _ _ rfl
        · exact names _ _ _ _ rfl
      · exact names _ _ _ _ rfl
    · exact names _ _ _ _ rfl
  · exact names _ _ _ _ rfl

variable {twin : MatterTwin} {now : ℤ} {clusters : Clusters}

/-- What is left out of an update has been reported already. -/
theorem overlay_changed {name : String} {attributes : List (String × Attribute)}
    (distinct : (attributes.map Prod.fst).Nodup) :
    overlay twin.reported (Clusters.cluster name (twin.changed name attributes)) =
      overlay twin.reported (Clusters.cluster name attributes) := by
  funext ⟨cluster, key⟩
  rw [overlay, overlay, Clusters.cluster, Clusters.cluster]
  split
  · rename_i same
    cases same
    rw [changed, lookup_filter distinct]
    cases shown : attributes.lookup key with
    | none => rfl
    | some value =>
        rw [Option.filter]
        split
        · rfl
        · rename_i known
          rw [Bool.not_eq_true, Bool.not_eq_false', Option.any_eq_true] at known
          obtain ⟨last, reported, equal⟩ := known
          rw [Option.none_or, Option.some_or, reported, Attribute.eq_of_strictEq equal]
  · rfl

/-- The twin remembers what it has gone through, and the updates tell Matter just that. -/
theorem reportLoop_reported (twin : MatterTwin) (now : ℤ)
    (distinct : ∀ entry ∈ clusters, (entry.2.map Prod.fst).Nodup) :
    (twin.reportLoop now clusters).1.reported =
        overlayAll Clusters.tells twin.reported clusters ∧
      overlayAll Clusters.tells twin.reported (twin.reportLoop now clusters).2 =
        overlayAll Clusters.tells twin.reported clusters := by
  induction clusters generalizing twin with
  | nil => exact ⟨rfl, rfl⟩
  | cons entry clusters induction =>
      obtain ⟨name, attributes⟩ := entry
      obtain ⟨first, others⟩ := List.forall_mem_cons.mp distinct
      have same : overlay twin.reported (Clusters.cluster name (twin.changed name attributes)) =
          overlay twin.reported (Clusters.cluster name attributes) := overlay_changed first
      rw [reportLoop]
      split
      · rename_i silent
        rw [List.isEmpty_iff.mp silent] at same
        have known : overlay twin.reported (Clusters.cluster name attributes) = twin.reported :=
          same.symm.trans (funext fun key => overlay_of_silent (ite_self none))
        have later : overlayAll Clusters.tells twin.reported ((name, attributes) :: clusters) =
            overlayAll Clusters.tells twin.reported clusters :=
          congrArg (fun view => overlayAll Clusters.tells view clusters) known
        rw [later]
        exact induction twin others
      · obtain ⟨remembers, sends⟩ := induction (twin.remember now name attributes) others
        refine ⟨remembers, Eq.trans ?_ sends⟩
        change overlayAll Clusters.tells
          (overlay twin.reported (Clusters.cluster name (twin.changed name attributes))) _ = _
        rw [same]
        rfl

theorem reportLoop_uuid : (twin.reportLoop now clusters).1.uuid = twin.uuid := by
  induction clusters generalizing twin with
  | nil => rfl
  | cons entry clusters induction =>
      rw [reportLoop]
      split
      · exact induction
      · exact induction

theorem report_of_ok {textual : Json → Option ℚ} {device : AqaraDevice} {uuid : String}
    (described : twin.uuid = some uuid) (shown : state textual device = .ok clusters) :
    twin.report textual device now = .ok (twin.reportLoop now clusters) := by
  rw [report, described, if_neg (by simp), shown]
  rfl

theorem report_of_error {textual : Json → Option ℚ} {device : AqaraDevice} {uuid error : String}
    (described : twin.uuid = some uuid) (thrown : state textual device = .error error) :
    twin.report textual device now = .error error := by
  rw [report, described, if_neg (by simp), thrown]
  rfl

/-- A descriptor remembers the clusters that it registers. -/
theorem descriptor_reported {textual : Json → Option ℚ} {device : AqaraDevice} {uuid : String}
    {described : MatterTwin}
    (made : create.descriptor textual device uuid now = .ok (described, clusters)) :
    clusters = MatterTwin.clusters textual device ∧ described.uuid = some uuid ∧
      described.reported = clusters.shown := by
  obtain ⟨found, shown, done⟩ := bind_eq_ok_iff.mp made
  cases done
  have remembers : ∀ (clusters : Clusters) (twin : MatterTwin),
      (clusters.foldl (fun twin cluster => twin.remember now cluster.1 cluster.2) twin).uuid =
          twin.uuid ∧
        (clusters.foldl (fun twin cluster => twin.remember now cluster.1 cluster.2) twin).reported =
          overlayAll Clusters.tells twin.reported clusters := by
    intro clusters
    induction clusters with
    | nil => exact fun twin => ⟨rfl, rfl⟩
    | cons entry clusters induction =>
        exact fun twin => induction (twin.remember now entry.1 entry.2)
  obtain ⟨-, rfl⟩ := state_eq_ok_iff.mp shown
  refine ⟨rfl, (remembers _ _).1, ?_⟩
  rw [(remembers _ _).2, Clusters.overlayAll_tells (distinct_clusters textual device).names]
  funext key
  exact Option.or_none

/-- What differs from what was last reported is sent. -/
theorem reportLoop_sends (now : ℤ) {key : String × String} {value : Attribute}
    (shown : clusters.shown key = some value)
    (differs : (twin.reported key).any (fun last => last.strictEq value) = false) :
    ∃ update ∈ (twin.reportLoop now clusters).2, (Clusters.tells update key).isSome = true := by
  induction clusters generalizing twin with
  | nil => cases shown
  | cons entry clusters induction =>
      obtain ⟨name, attributes⟩ := entry
      rw [Clusters.shown_cons] at shown
      rw [reportLoop]
      obtain ⟨cluster, key⟩ := key
      rcases eq_or_ne cluster name with rfl | elsewhere
      · rw [if_pos rfl] at shown
        have sent : (key, value) ∈ twin.changed cluster attributes :=
          List.mem_filter.mpr ⟨mem_of_lookup shown, by rw [differs]; rfl⟩
        rw [if_neg (by simpa [List.isEmpty_iff] using List.ne_nil_of_mem sent)]
        refine ⟨_, List.mem_cons_self, ?_⟩
        rw [Clusters.tells, Clusters.cluster, if_pos rfl, List.lookup_isSome_iff]
        exact ⟨_, sent, beq_self_eq_true key⟩
      · rw [if_neg elsewhere] at shown
        split
        · exact induction shown differs
        · have kept : (twin.remember now name attributes).reported (cluster, key) =
              twin.reported (cluster, key) := overlay_of_silent (if_neg elsewhere)
          obtain ⟨update, sent, speaks⟩ := @induction (twin.remember now name attributes) shown
            (by rw [kept]; exact differs)
          exact ⟨update, List.mem_cons_of_mem _ sent, speaks⟩

end MatterTwin

/-! ## The machine -/

namespace Convergence

/-- How a call of `updateAccessoryState` has ended. -/
inductive Outcome where
  | pending
  | succeeded
  | rejected
  deriving DecidableEq, Repr

/-- A call of `updateAccessoryState`. -/
structure Update where
  /-- The number of the device change that it reports. -/
  change : ℕ
  /-- The cluster. -/
  cluster : String
  /-- The attributes that it sends. -/
  attributes : List (String × Attribute)
  /-- How it has ended. -/
  outcome : Outcome

/-- What an update tells Matter. -/
def Update.tells (update : Update) : Shown := Clusters.cluster update.cluster update.attributes

/-- A call that has just been made. -/
def Update.sent (change : ℕ) (update : String × List (String × Attribute)) : Update :=
  ⟨change, update.1, update.2, .pending⟩

/-- The promise of `registerPlatformAccessories`. -/
inductive Registration where
  | pending
  | completed
  | failed
  deriving DecidableEq, Repr

/-- The device, its twin and what Matter has been told. -/
structure State where
  /-- The device. -/
  device : AqaraDevice
  /-- The twin. -/
  twin : MatterTwin
  /-- The clusters of the descriptor. -/
  registered : Clusters
  /-- Whether the accessory has been registered, which is when the twin starts to listen. -/
  registration : Registration
  /-- The number of device changes that the twin has handled. -/
  changes : ℕ
  /-- The updates, in the order in which they were sent. -/
  updates : List Update

/-- What happens. -/
inductive Label where
  /-- A report or a set that was accepted leaves a value with the device. -/
  | recorded (code : String) (value : Json) (now : ℤ)
  /-- The registration completes. -/
  | registered
  /-- The registration fails. -/
  | refused
  /-- An update ends. -/
  | settled (change : ℕ) (cluster : String) (outcome : Outcome)

variable (textual : Json → Option ℚ)

/-- `record`, with the listener of the twin.  Of the other listeners only that of a button throws,
and a button is nothing that Matter shows. -/
def State.record (state : State) (code : String) (value : Json) (now : ℤ) : State :=
  if state.device.has code value then state
  else
    let device := state.device.setState code value
    if state.registration = .completed then
      match state.twin.report textual device now with
      | .ok (twin, sent) =>
          { state with
            device
            twin
            changes := state.changes + 1
            updates := state.updates ++ sent.map (Update.sent (state.changes + 1)) }
      | .error _ => { state with device }
    else { state with device }

/-- A promise ends for the update that it belongs to. -/
def Update.settle (change : ℕ) (cluster : String) (outcome : Outcome) (update : Update) : Update :=
  if update.change = change ∧ update.cluster = cluster then { update with outcome } else update

/-- When a label can occur. -/
def Possible (state : State) : Label → Prop
  | .recorded code _ _ => state.device.can code = true
  | .registered => state.registration = .pending
  | .refused => state.registration = .pending
  | .settled change cluster outcome => outcome ≠ .pending ∧
      ∃ update ∈ state.updates,
        update.change = change ∧ update.cluster = cluster ∧ update.outcome = .pending

/-- What a label does. -/
def perform (state : State) : Label → State
  | .recorded code value now => state.record textual code value now
  | .registered => { state with registration := .completed }
  | .refused => { state with registration := .failed }
  | .settled change cluster outcome =>
      { state with updates := state.updates.map (Update.settle change cluster outcome) }

/-- `addToMatter` has asked for the registration. -/
structure Begins (state : State) : Prop where
  /-- The descriptor is made of the device as it is. -/
  descriptor : ∃ uuid now, MatterTwin.create.descriptor textual state.device uuid now =
    .ok (state.twin, state.registered)
  /-- The registration is pending. -/
  registration : state.registration = .pending
  /-- No change has been handled. -/
  changes : state.changes = 0
  /-- Nothing has been sent. -/
  updates : state.updates = []

/-- The labelled transition system. -/
def machine : Machine State Label where
  initial := Begins textual
  step state label next := Possible state label ∧ next = perform textual state label

/-- What Matter has been told: the registered clusters overlaid by all updates. -/
def State.told (state : State) : Shown :=
  overlayAll Update.tells state.registered.shown state.updates

/-- What Matter shows: the registered clusters overlaid by the updates that succeeded. -/
def State.view (state : State) : Shown :=
  overlayAll Update.tells state.registered.shown
    (state.updates.filter fun update => update.outcome = .succeeded)

/-- Matter is told and shows what the device shows. -/
structure Convergent (state : State) : Prop where
  /-- From the registration on Matter has been told what the device shows. -/
  told : state.registration = .completed →
    ∀ clusters, MatterTwin.state textual state.device = .ok clusters →
      state.told = clusters.shown
  /-- Once a change has been handled whose updates succeeded, Matter shows what the device shows, but
  for what is still on its way. -/
  shown : state.registration = .completed → 0 < state.changes →
    (∀ update ∈ state.updates, update.change = state.changes → update.outcome = .succeeded) →
    ∀ clusters, MatterTwin.state textual state.device = .ok clusters →
      ∀ key, (∀ update ∈ state.updates, (update.tells key).isSome = true →
        update.outcome ≠ .pending) → state.view key = clusters.shown key

/-- The registration completes while the device shows what was registered, and what a rejected update
was to tell is told again by the change that comes next. -/
def Told (state : State) : Label → Prop
  | .recorded code value _ => state.device.has code value = false →
      ∀ clusters, MatterTwin.state textual (state.device.setState code value) = .ok clusters →
        ∀ key update, latest Update.tells state.updates key = some update →
          update.outcome = .rejected →
            ∀ value, clusters.shown key = some value →
              (state.told key).any (fun last => last.strictEq value) = false
  | .registered => ∀ clusters, MatterTwin.state textual state.device = .ok clusters →
      clusters.shown = state.registered.shown
  | .settled change cluster .rejected => change = state.changes ∨
      ∀ key update, latest Update.tells state.updates key = some update →
        ¬ (update.change = change ∧ update.cluster = cluster)
  | _ => True

/-- What holds in a run that tells Matter everything. -/
structure Consistent (state : State) : Prop where
  /-- There is a descriptor. -/
  uuid : ∃ uuid, state.twin.uuid = some uuid
  /-- The twin remembers what Matter has been told. -/
  reported : state.twin.reported = state.told
  /-- Matter has been told of the attributes that the device shows. -/
  domain : ∀ key, (state.told key).isSome =
    ((MatterTwin.clusters textual state.device).shown key).isSome
  /-- From the registration on it has been told what the device shows. -/
  current : state.registration = .completed →
    ∀ clusters, MatterTwin.state textual state.device = .ok clusters →
      state.told = clusters.shown
  /-- Before that no update is sent. -/
  silent : state.registration ≠ .completed → state.updates = []
  /-- The latest word on an attribute is rejected only in an update of the latest change. -/
  retold : ∀ key update, latest Update.tells state.updates key = some update →
    update.outcome = .rejected → update.change = state.changes

variable {textual}

theorem consistent_of_begins {state : State} (begins : Begins textual state) :
    Consistent textual state := by
  obtain ⟨⟨uuid, now, made⟩, pending, -, empty⟩ := begins
  obtain ⟨registered, named, reported⟩ := MatterTwin.descriptor_reported made
  have told : state.told = state.registered.shown := by rw [State.told, empty, overlayAll_nil]
  refine ⟨⟨uuid, named⟩, reported.trans told.symm, fun key => ?_, fun completed => ?_,
    fun _ => empty, fun key update found => ?_⟩
  · rw [told, registered]
  · rw [pending] at completed
    cases completed
  · rw [empty, latest_nil] at found
    cases found

/-- A report tells Matter what the device shows. -/
theorem told_report {state : State} (consistent : Consistent textual state) {device : AqaraDevice}
    {clusters : Clusters} (shown : MatterTwin.state textual device = .ok clusters)
    (domain : ∀ key, (state.told key).isSome = (clusters.shown key).isSome) (now : ℤ) (change : ℕ) :
    (state.twin.reportLoop now clusters).1.reported = clusters.shown ∧
      overlayAll Update.tells state.registered.shown (state.updates ++
        (state.twin.reportLoop now clusters).2.map (Update.sent change)) = clusters.shown := by
  obtain ⟨-, rfl⟩ := MatterTwin.state_eq_ok_iff.mp shown
  have distinct := MatterTwin.distinct_clusters textual device
  obtain ⟨remembers, sends⟩ := MatterTwin.reportLoop_reported state.twin now distinct.attributes
  have covered : overlay state.told (MatterTwin.clusters textual device).shown =
      (MatterTwin.clusters textual device).shown :=
    overlay_of_covers fun key known => (domain key).symm.trans known
  rw [Clusters.overlayAll_tells distinct.names, consistent.reported, covered] at remembers sends
  refine ⟨remembers, ?_⟩
  rw [overlayAll_append, overlayAll_map]
  exact sends

/-- A change that tells again what was rejected leaves no rejection as the latest word. -/
theorem not_rejected_of_told {state : State} (consistent : Consistent textual state) {code : String}
    {value : Json} {now : ℤ} (told : Told textual state (.recorded code value now))
    (news : state.device.has code value = false)
    (shown : MatterTwin.state textual (state.device.setState code value) =
      .ok (MatterTwin.clusters textual (state.device.setState code value))) {key : String × String}
    {update : Update} (found : latest Update.tells state.updates key = some update)
    (silent : latest Update.tells ((state.twin.reportLoop now (MatterTwin.clusters textual
      (state.device.setState code value))).2.map (Update.sent (state.changes + 1))) key = none) :
    update.outcome ≠ .rejected := by
  intro ended
  have spoken : (state.told key).isSome = true := overlayAll_isSome found
  rw [consistent.domain, ← MatterTwin.shown_isSome_setState textual state.device code value]
    at spoken
  obtain ⟨shows, stated⟩ := Option.isSome_iff_exists.mp spoken
  have differs := told news _ shown key update found ended shows stated
  rw [← consistent.reported] at differs
  obtain ⟨sent, member, speaks⟩ := MatterTwin.reportLoop_sends now stated differs
  have repeats : ((Update.sent (state.changes + 1) sent).tells key).isSome = true := speaks
  obtain ⟨last, repeated⟩ := exists_latest (List.mem_map_of_mem member) repeats
  rw [silent] at repeated
  cases repeated

theorem consistent_record {state : State} (consistent : Consistent textual state) {code : String}
    {value : Json} {now : ℤ} (told : Told textual state (.recorded code value now)) :
    Consistent textual (state.record textual code value now) := by
  rw [State.record]
  split
  · exact consistent
  · rename_i news
    have domain : ∀ key, (state.told key).isSome =
        ((MatterTwin.clusters textual (state.device.setState code value)).shown key).isSome :=
      fun key => (consistent.domain key).trans
        (MatterTwin.shown_isSome_setState textual state.device code value key).symm
    split
    · rename_i completed
      obtain ⟨uuid, named⟩ := consistent.uuid
      cases shown : MatterTwin.state textual (state.device.setState code value) with
      | error error =>
          simp only [MatterTwin.report_of_error named shown]
          refine ⟨⟨uuid, named⟩, consistent.reported, domain, fun _ clusters shown' => ?_,
            consistent.silent, consistent.retold⟩
          rw [shown] at shown'
          cases shown'
      | ok clusters =>
          simp only [MatterTwin.report_of_ok named shown]
          obtain ⟨-, rfl⟩ := MatterTwin.state_eq_ok_iff.mp shown
          obtain ⟨remembers, sends⟩ := told_report consistent shown domain now (state.changes + 1)
          refine ⟨⟨uuid, MatterTwin.reportLoop_uuid.trans named⟩, remembers.trans sends.symm,
            fun key => ?_, fun _ clusters' shown' => ?_, fun waiting => absurd completed waiting,
            fun key update found ended => ?_⟩
          · exact congrArg (fun view : Shown => (view key).isSome) sends
          · cases shown.symm.trans shown'
            exact sends
          · rw [latest_append] at found
            cases again : latest Update.tells
                ((state.twin.reportLoop now (MatterTwin.clusters textual
                  (state.device.setState code value))).2.map
                    (Update.sent (state.changes + 1))) key with
            | some last =>
                rw [again, Option.some_or] at found
                cases found
                obtain ⟨sent, -, rfl⟩ := List.mem_map.mp (mem_of_latest again)
                rfl
            | none =>
                rw [again, Option.none_or] at found
                exact absurd ended
                  (not_rejected_of_told consistent told (Bool.eq_false_iff.mpr news) shown found again)
    · rename_i waiting
      exact ⟨consistent.uuid, consistent.reported, domain,
        fun completed => absurd completed waiting, consistent.silent, consistent.retold⟩

theorem tells_settle (change : ℕ) (cluster : String) (outcome : Outcome) (update : Update) :
    (update.settle change cluster outcome).tells = update.tells := by
  rw [Update.settle]
  split <;> rfl

theorem consistent_settle {state : State} (consistent : Consistent textual state) {change : ℕ}
    {cluster : String} {outcome : Outcome}
    (told : Told textual state (.settled change cluster outcome)) :
    Consistent textual (perform textual state (.settled change cluster outcome)) := by
  have same : (perform textual state (.settled change cluster outcome)).told = state.told := by
    simp only [State.told, perform, overlayAll_map, tells_settle]
  refine ⟨consistent.uuid, consistent.reported.trans same.symm, fun key => ?_,
    fun completed clusters shown => same.trans (consistent.current completed clusters shown),
    fun waiting => ?_, fun key update found ended => ?_⟩
  · rw [same]
    exact consistent.domain key
  · simp only [perform, consistent.silent waiting, List.map_nil]
  · simp only [perform, latest_map (tells_settle change cluster outcome)] at found
    obtain ⟨before, latest, rfl⟩ := Option.map_eq_some_iff.mp found
    rw [Update.settle] at ended ⊢
    split at ended
    · rename_i hit
      cases ended
      rw [if_pos hit]
      rcases told with recent | again
      · exact hit.1.trans recent
      · exact absurd hit (again key before latest)
    · rename_i miss
      rw [if_neg miss]
      exact consistent.retold key before latest ended

theorem consistent_perform {state : State} (consistent : Consistent textual state) {label : Label}
    (told : Told textual state label) (possible : Possible state label) :
    Consistent textual (perform textual state label) := by
  cases label with
  | recorded code value now => exact consistent_record consistent told
  | registered =>
      have empty : state.updates = [] := consistent.silent (by rw [possible]; simp)
      have registered : state.told = state.registered.shown := by
        rw [State.told, empty, overlayAll_nil]
      exact ⟨consistent.uuid, consistent.reported, consistent.domain,
        fun _ clusters shown => registered.trans (told clusters shown).symm, fun _ => empty,
        consistent.retold⟩
  | refused =>
      have empty : state.updates = [] := consistent.silent (by rw [possible]; simp)
      exact ⟨consistent.uuid, consistent.reported, consistent.domain,
        fun completed => absurd completed (by simp [perform]), fun _ => empty,
        consistent.retold⟩
  | settled change cluster outcome => exact consistent_settle consistent told

/-- In a consistent state Matter is told and shows what the device shows. -/
theorem Consistent.convergent {state : State} (consistent : Consistent textual state) :
    Convergent textual state := by
  refine ⟨consistent.current, fun completed changed succeeded clusters shown key arrived => ?_⟩
  rw [← consistent.current completed clusters shown]
  refine overlayAll_filter fun update found => ?_
  rw [decide_eq_true_iff]
  have member := mem_of_latest found
  cases ended : update.outcome with
  | pending => exact absurd ended (arrived update member (tells_of_latest found))
  | succeeded => rfl
  | rejected =>
      rw [← ended]
      exact succeeded update member (consistent.retold key update found ended)

/-- Whatever is recorded, whenever the registration completes and however the updates end, Matter is
told and shows what the device shows, as long as the registration completes while the device shows
what was registered and every rejected update is followed by one that says the same again. -/
theorem run_convergent (textual : Json → Option ℚ) {labels : List Label} {state : State}
    (run : (machine textual).Run (Told textual) labels state) : Convergent textual state := by
  have consistent : Consistent textual state := run.invariant
    (fun _ begins => consistent_of_begins begins)
    fun before label next consistent told step => by
      obtain ⟨possible, rfl⟩ := step
      exact consistent_perform consistent told possible
  exact consistent.convergent

/-! ## A plug -/

/-- A plug that can be switched and measures its power. -/
def plug : AqaraDevice where
  deviceId := "lumi.plug"
  model := "lumi.plug.acn003"
  hasHub := true
  capabilities := capabilities
    [("1.140.32945", ⟨some "CurrentPower", false, some 0, some 5000, some "float"⟩),
      ("2.132.32920", ⟨some "OnOff", true, some 0, some 0, some "bool"⟩)] (by decide)
  state := fun _ => none
  listeners := [.push]
  levels := 4000

/-- The plug once `addToMatter` has asked for its registration. -/
def asked : State where
  device := plug
  twin := MatterTwin.remember { MatterTwin.create with uuid := some "uuid" } 0 "onOff"
    [("onOff", .bool false)]
  registered := [("onOff", [("onOff", .bool false)])]
  registration := .pending
  changes := 0
  updates := []

/-- Converting texts does not matter here. -/
def noTexts : Json → Option ℚ := fun _ => none

theorem asked_begins : Begins noTexts asked := ⟨⟨"uuid", 0, rfl⟩, rfl, rfl, rfl⟩

/-- The plug is switched on after it has been registered, and Matter takes the update. -/
theorem switched_plug_converges : ∃ labels state,
    (machine noTexts).Run (Told noTexts) labels state ∧ state.changes = 1 ∧
      state.view ("onOff", "onOff") = some (.bool true) ∧ Convergent noTexts state := by
  have start : (machine noTexts).Run (Told noTexts) [] asked := .start asked_begins
  have listens := start.extend .registered
    (fun clusters shown => by
      obtain ⟨-, rfl⟩ := MatterTwin.state_eq_ok_iff.mp shown
      rfl) ⟨rfl, rfl⟩
  have switched := listens.extend (.recorded "OnOff" (.bool true) 5000)
    (fun _ _ _ key update found => by cases found) ⟨rfl, rfl⟩
  have settled := switched.extend (.settled 1 "onOff" .succeeded) trivial
    ⟨⟨by simp, _, List.mem_cons_self, rfl, rfl, rfl⟩, rfl⟩
  exact ⟨_, _, settled, rfl, rfl, run_convergent noTexts settled⟩

/-- A plug that is switched on while its registration is pending is shown switched off, and so is one
whose update was rejected, after a change of its power as before it. -/
theorem switched_plug_diverges :
    (∃ labels state, (machine noTexts).Run (fun _ _ => True) labels state ∧
      labels = [.recorded "OnOff" (.bool true) 5000, .registered] ∧
      ¬ Convergent noTexts state) ∧
    ∃ labels state, (machine noTexts).Run (fun _ _ => True) labels state ∧
      labels = [.registered, .recorded "OnOff" (.bool true) 5000, .settled 1 "onOff" .rejected,
        .recorded "CurrentPower" (.number 40) 9000] ∧
      ¬ Convergent noTexts state := by
  have start : (machine noTexts).Run (fun _ _ => True) [] asked := .start asked_begins
  constructor
  · have switched := start.extend (.recorded "OnOff" (.bool true) 5000) trivial ⟨rfl, rfl⟩
    have listens := switched.extend .registered trivial ⟨rfl, rfl⟩
    refine ⟨_, _, listens, rfl, fun convergent => ?_⟩
    have told := congrFun (convergent.told rfl _ rfl) ("onOff", "onOff")
    cases told
  · have listens := start.extend .registered trivial ⟨rfl, rfl⟩
    have switched := listens.extend (.recorded "OnOff" (.bool true) 5000) trivial ⟨rfl, rfl⟩
    have rejected := switched.extend (.settled 1 "onOff" .rejected) trivial
      ⟨⟨by simp, _, List.mem_cons_self, rfl, rfl, rfl⟩, rfl⟩
    have measured := rejected.extend (.recorded "CurrentPower" (.number 40) 9000) trivial
      ⟨rfl, rfl⟩
    refine ⟨_, _, measured, rfl, fun convergent => ?_⟩
    have shown := convergent.shown rfl (by decide) ?_ _ rfl ("onOff", "onOff") ?_
    · cases shown
    · intro update member latest
      have only : update ∈ [(⟨1, "onOff", [("onOff", .bool true)], .rejected⟩ : Update)] := member
      cases List.mem_singleton.mp only
      cases latest
    · intro update member _
      have only : update ∈ [(⟨1, "onOff", [("onOff", .bool true)], .rejected⟩ : Update)] := member
      cases List.mem_singleton.mp only
      simp

end Convergence
end Port
end AqaraLanLink
