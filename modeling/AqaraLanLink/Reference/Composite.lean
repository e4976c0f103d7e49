import AqaraLanLink.Library.Fallible
import AqaraLanLink.Library.Overlay
import AqaraLanLink.Library.Runs
import AqaraLanLink.Reference.Codecs
import Mathlib.Logic.Function.Basic

/-!
# Composite settings

`device/composites/controller.py`: a controller reads, modifies and writes all fields of one packed
value at every change of one of them.  Its calls, the seeds and the device are a labelled transition
system.
-/

namespace AqaraLanLink
namespace Reference

open Library

/-! ## The controller -/

/-- The fields of a composite value. -/
abbrev Fields (ν : Type) := String → Option ν

/-- A codec between the fields and the wire value. -/
structure Codec (ν ω : Type) where
  /-- `defaults`. -/
  defaults : Fields ν
  /-- `encode`. -/
  encode : Fields ν → Except Codecs.Exception ω
  /-- `decode`. -/
  decode : ω → Except Codecs.Exception (Fields ν)

/-- A wire value has this value in a field. -/
def Codec.Carries {ν ω : Type} (codec : Codec ν ω) (wire : ω) (field : String) (value : ν) : Prop :=
  ∃ fields, codec.decode wire = .ok fields ∧ fields field = some value

/-- What `CompositeController` keeps. -/
structure CompositeController (ν : Type) where
  /-- The fields. -/
  fields : Fields ν
  /-- Whether a value of the device has been decoded. -/
  seeded : Bool

namespace CompositeController

variable {ν ω : Type}

/-- A new controller. -/
def init (codec : Codec ν ω) : CompositeController ν := ⟨codec.defaults, false⟩

/-- `seed`. -/
def seed (codec : Codec ν ω) (controller : CompositeController ν) (wire : ω) :
    CompositeController ν :=
  match codec.decode wire with
  | .error _ => controller
  | .ok fields => ⟨fields, true⟩

/-- The copy that `async_set` makes. -/
def modified (controller : CompositeController ν) (field : String) (value : ν) : Fields ν :=
  Function.update controller.fields field (some value)

/-- `async_set` once its write has succeeded. -/
def commit (controller : CompositeController ν) (copy : Fields ν) : CompositeController ν :=
  { controller with fields := copy }

end CompositeController

namespace Composite

variable {ν ω : Type}

/-! ## The machine -/

/-- A call of `async_set` that waits for its write. -/
structure Call (ν ω : Type) where
  /-- The number of the call. -/
  id : ℕ
  /-- The field. -/
  field : String
  /-- The value that it sets. -/
  value : ν
  /-- The fields that it is going to commit. -/
  copy : Fields ν
  /-- The wire value that it writes. -/
  wire : ω

/-- What has been completed. -/
inductive Completed (ν : Type) where
  /-- A seed that could be decoded. -/
  | seeded (fields : Fields ν)
  /-- A call of `async_set` that succeeded. -/
  | set (field : String) (value : ν)

/-- What the fields are once something has been completed. -/
def Completed.apply (fields : Fields ν) : Completed ν → Fields ν
  | .seeded fields => fields
  | .set field value => Function.update fields field (some value)

/-- What is set by something that has been completed. -/
def Completed.tells : Completed ν → String → Option ν
  | .seeded _, _ => none
  | .set field value, other => if other = field then some value else none

/-- The controller, its calls and the device. -/
structure State (ν ω : Type) where
  /-- The controller. -/
  controller : CompositeController ν
  /-- The calls that wait. -/
  calls : List (Call ν ω)
  /-- The number of the next call. -/
  next : ℕ
  /-- The numbers of the calls whose wire values the device has taken. -/
  taken : List ℕ
  /-- The call whose wire value the device has taken last. -/
  device : Option (Call ν ω)
  /-- What has been completed, in order. -/
  history : List (Completed ν)
  /-- The numbers of the calls that failed. -/
  failed : List ℕ

/-- What happens. -/
inductive Label (ν ω : Type) where
  /-- `async_set` is called. -/
  | begin (field : String) (value : ν)
  /-- The device takes the wire value of a call. -/
  | taken (call : Call ν ω)
  /-- The write of a call succeeds. -/
  | succeeded (call : Call ν ω)
  /-- The write of a call fails. -/
  | failed (call : Call ν ω)
  /-- A seed comes in. -/
  | seed (wire : ω)

/-- When a label can occur: the calls that wait are for different fields. -/
def Possible (state : State ν ω) : Label ν ω → Prop
  | .begin field _ => ∀ call ∈ state.calls, call.field ≠ field
  | .taken call => call ∈ state.calls ∧ call.id ∉ state.taken
  | .succeeded call => call ∈ state.calls ∧ call.id ∈ state.taken
  | .failed call => call ∈ state.calls
  | .seed _ => True

variable (codec : Codec ν ω)

/-- A call is over. -/
def State.without (state : State ν ω) (id : ℕ) : List (Call ν ω) :=
  state.calls.filter fun call => call.id ≠ id

/-- What a label does. -/
def perform (state : State ν ω) : Label ν ω → State ν ω
  | .begin field value =>
      let copy := state.controller.modified field value
      match codec.encode copy with
      | .error _ => state
      | .ok wire =>
          { state with
            calls := state.calls ++ [⟨state.next, field, value, copy, wire⟩]
            next := state.next + 1 }
  | .taken call => { state with taken := call.id :: state.taken, device := some call }
  | .succeeded call =>
      { state with
        controller := state.controller.commit call.copy
        calls := state.without call.id
        history := state.history ++ [.set call.field call.value] }
  | .failed call =>
      { state with calls := state.without call.id, failed := call.id :: state.failed }
  | .seed wire =>
      match codec.decode wire with
      | .error _ => state
      | .ok fields =>
          { state with
            controller := state.controller.seed codec wire
            history := state.history ++ [.seeded fields] }

/-- A new controller of a device that has taken nothing from it. -/
def initial : State ν ω where
  controller := .init codec
  calls := []
  next := 0
  taken := []
  device := none
  history := []
  failed := []

/-- The labelled transition system. -/
def machine : Machine (State ν ω) (Label ν ω) where
  initial state := state = initial codec
  step state label next := Possible state label ∧ next = perform codec state label

/-- What the fields should be: everything that was completed has been applied. -/
def State.expected (state : State ν ω) : Fields ν :=
  state.history.foldl Completed.apply codec.defaults

/-- The value of the last successful set of a field. -/
def State.lastSet (state : State ν ω) : Fields ν :=
  overlayAll Completed.tells (fun _ => none) state.history

/-- No update is lost. -/
structure Kept (state : State ν ω) : Prop where
  /-- What was completed is not undone. -/
  committed : state.controller.fields = state.expected codec
  /-- The wire value that the device took last is not that of a call that failed. -/
  untouched : ∀ write, state.device = some write → write.id ∉ state.failed
  /-- When no call waits, every field that was set has its last value, in the controller and in the
  wire value that the device took last. -/
  settled : state.calls = [] → ∀ field value, state.lastSet field = some value →
    state.controller.fields field = some value ∧
      ∃ write, state.device = some write ∧ codec.Carries write.wire field value

/-- A call whose write succeeds commits its own field only, its wire value carries what has been set,
and so does the wire value that the device took last if its call is over; the device has not taken a
wire value whose call fails; and a seed says nothing else of the fields that have been set. -/
def Exclusive (state : State ν ω) : Label ν ω → Prop
  | .succeeded call =>
      (∀ other, other ≠ call.field → call.copy other = state.controller.fields other) ∧
      (∀ field value, field = call.field ∨ state.lastSet field ≠ none →
        call.copy field = some value → codec.Carries call.wire field value) ∧
      ∀ write, state.device = some write → write.id ≠ call.id →
        write ∉ state.calls → codec.Carries write.wire call.field call.value
  | .failed call => ∀ write, state.device = some write → write.id ≠ call.id
  | .seed wire => ∀ fields, codec.decode wire = .ok fields →
      ∀ field value, state.lastSet field = some value → fields field = some value
  | _ => True

/-! ## The invariant -/

/-- What holds in a run of exclusive sets. -/
structure Consistent (state : State ν ω) : Prop where
  /-- The fields are those that were completed. -/
  expected : state.controller.fields = state.expected codec
  /-- A field that was set has the value of its last set. -/
  current : ∀ field value, state.lastSet field = some value →
    state.controller.fields field = some value
  /-- The copy of a call has the value that it sets. -/
  copies : ∀ call ∈ state.calls, call.copy call.field = some call.value
  /-- The numbers have been given out. -/
  fresh : ∀ call, call ∈ state.calls ∨ state.device = some call → call.id < state.next
  /-- Those of the calls that failed, too. -/
  failedFresh : ∀ id ∈ state.failed, id < state.next
  /-- A call that waits has its number for itself. -/
  unique : ∀ call ∈ state.calls, ∀ other, other ∈ state.calls ∨ state.device = some other →
    other.id = call.id → other = call
  /-- A call that waits has not failed. -/
  waiting : ∀ call ∈ state.calls, call.id ∉ state.failed
  /-- The wire value that the device took last is not that of a call that failed. -/
  untouched : ∀ write, state.device = some write → write.id ∉ state.failed
  /-- The device has a wire value when it has taken one. -/
  wired : state.taken ≠ [] → state.device ≠ none
  /-- It has one when a field has been set. -/
  written : ∀ field, state.lastSet field ≠ none → state.device ≠ none
  /-- When the call of the wire value that it took last is over, that carries what has been set. -/
  carried : ∀ write, state.device = some write → write ∉ state.calls →
    ∀ field value, state.lastSet field = some value → codec.Carries write.wire field value

variable {codec} {state : State ν ω} {call : Call ν ω}

theorem mem_without {id : ℕ} : call ∈ state.without id ↔ call ∈ state.calls ∧ call.id ≠ id := by
  simp [State.without]

theorem lastSet_concat (done : Completed ν) (field : String) :
    overlayAll Completed.tells (fun _ => none) (state.history ++ [done]) field =
      (done.tells field).or (state.lastSet field) :=
  congrFun overlayAll_concat field

theorem consistent_initial : Consistent codec (initial codec) where
  expected := rfl
  current := by simp [initial, State.lastSet]
  copies := by simp [initial]
  fresh := by simp [initial]
  failedFresh := by simp [initial]
  unique := by simp [initial]
  waiting := by simp [initial]
  untouched := by simp [initial]
  wired := by simp [initial]
  written := by simp [initial, State.lastSet]
  carried := by simp [initial]

/-- A call takes a number and a copy of the fields. -/
theorem consistent_begin (consistent : Consistent codec state) (field : String) (value : ν) :
    Consistent codec (perform codec state (.begin field value)) := by
  simp only [perform]
  cases encoded : codec.encode (state.controller.modified field value) with
  | error error => exact consistent
  | ok wire =>
      have older : ∀ call, call ∈ state.calls ∨ state.device = some call →
          call.id ≠ state.next := fun call known => Nat.ne_of_lt (consistent.fresh call known)
      exact
        { expected := consistent.expected
          current := consistent.current
          copies := by
            intro call member
            rcases List.mem_append.mp member with old | new
            · exact consistent.copies call old
            · cases List.mem_singleton.mp new
              exact Function.update_self ..
          fresh := by
            intro call known
            rw [List.mem_append, List.mem_singleton] at known
            rcases known with (old | rfl) | taken
            · exact Nat.lt_succ_of_lt (consistent.fresh call (Or.inl old))
            · exact Nat.lt_succ_self _
            · exact Nat.lt_succ_of_lt (consistent.fresh call (Or.inr taken))
          failedFresh := fun id member => Nat.lt_succ_of_lt (consistent.failedFresh id member)
          unique := by
            intro call member other known same
            rw [List.mem_append, List.mem_singleton] at member known
            rcases member with member | rfl
            · rcases known with (old | rfl) | taken
              · exact consistent.unique call member other (Or.inl old) same
              · exact absurd same.symm (older call (Or.inl member))
              · exact consistent.unique call member other (Or.inr taken) same
            · rcases known with (old | rfl) | taken
              · exact absurd same (older other (Or.inl old))
              · rfl
              · exact absurd same (older other (Or.inr taken))
          waiting := by
            intro call member failed
            rcases List.mem_append.mp member with old | new
            · exact consistent.waiting call old failed
            · cases List.mem_singleton.mp new
              exact Nat.ne_of_lt (consistent.failedFresh _ failed) rfl
          untouched := consistent.untouched
          wired := consistent.wired
          written := consistent.written
          carried := fun write taken finished => consistent.carried write taken fun waits =>
            finished (List.mem_append_left _ waits) }

/-- The device takes the wire value of a call that waits. -/
theorem consistent_taken (consistent : Consistent codec state) (waits : call ∈ state.calls) :
    Consistent codec (perform codec state (.taken call)) where
  expected := consistent.expected
  current := consistent.current
  copies := consistent.copies
  fresh := by
    rintro other (old | taken)
    · exact consistent.fresh other (Or.inl old)
    · cases taken
      exact consistent.fresh call (Or.inl waits)
  failedFresh := consistent.failedFresh
  unique := by
    rintro waiting member other (old | taken) same
    · exact consistent.unique waiting member other (Or.inl old) same
    · cases taken
      exact consistent.unique waiting member call (Or.inl waits) same
  waiting := consistent.waiting
  untouched := by
    intro write taken
    cases taken
    exact consistent.waiting call waits
  wired := by simp [perform]
  written := by simp [perform]
  carried := by
    intro write taken finished
    cases taken
    exact absurd waits finished

/-- A call commits its field, and the wire value of the device carries what has been set. -/
theorem consistent_succeeded (consistent : Consistent codec state) (waits : call ∈ state.calls)
    (taken : call.id ∈ state.taken) (exclusive : Exclusive codec state (.succeeded call)) :
    Consistent codec (perform codec state (.succeeded call)) := by
  obtain ⟨siblings, wire, device⟩ := exclusive
  have copied : call.copy = Function.update state.controller.fields call.field (some call.value) := by
    funext field
    rcases eq_or_ne field call.field with rfl | other
    · rw [consistent.copies call waits, Function.update_self]
    · rw [siblings field other, Function.update_of_ne other]
  have lastSet : ∀ field value,
      (perform codec state (.succeeded call)).lastSet field = some value →
        call.copy field = some value ∧ (field = call.field ∨ state.lastSet field = some value) := by
    intro field value last
    rw [State.lastSet, perform, lastSet_concat, Completed.tells] at last
    split at last
    · rename_i same
      cases last
      exact ⟨same ▸ consistent.copies call waits, Or.inl same⟩
    · rename_i other
      rw [Option.none_or] at last
      exact ⟨(siblings field other).trans (consistent.current field value last), Or.inr last⟩
  exact
    { expected := by
        rw [State.expected, perform, List.foldl_append, ← State.expected, ← consistent.expected]
        exact copied
      current := fun field value last => (lastSet field value last).1
      copies := fun other member => consistent.copies other (mem_without.mp member).1
      fresh := fun other known => consistent.fresh other
        (known.imp_left fun member => (mem_without.mp member).1)
      failedFresh := consistent.failedFresh
      unique := fun other member another known => consistent.unique other (mem_without.mp member).1
        another (known.imp_left fun member => (mem_without.mp member).1)
      waiting := fun other member => consistent.waiting other (mem_without.mp member).1
      untouched := consistent.untouched
      wired := consistent.wired
      written := fun _ _ => consistent.wired (List.ne_nil_of_mem taken)
      carried := by
        intro write last finished field value set
        obtain ⟨copy, known⟩ := lastSet field value set
        by_cases own : write.id = call.id
        · cases consistent.unique call waits write (Or.inr last) own
          exact wire field value (known.imp_right fun set => by simp [set]) copy
        · have before : write ∉ state.calls := fun member => finished (mem_without.mpr ⟨member, own⟩)
          rcases known with rfl | set
          · rw [consistent.copies call waits] at copy
            cases copy
            exact device write last own before
          · exact consistent.carried write last before field value set }

/-- A call that fails changes nothing. -/
theorem consistent_failed (consistent : Consistent codec state) (waits : call ∈ state.calls)
    (exclusive : Exclusive codec state (.failed call)) :
    Consistent codec (perform codec state (.failed call)) where
  expected := consistent.expected
  current := consistent.current
  copies := fun other member => consistent.copies other (mem_without.mp member).1
  fresh := fun other known => consistent.fresh other
    (known.imp_left fun member => (mem_without.mp member).1)
  failedFresh := by
    intro id member
    rcases List.mem_cons.mp member with rfl | before
    · exact consistent.fresh call (Or.inl waits)
    · exact consistent.failedFresh id before
  unique := fun other member another known => consistent.unique other (mem_without.mp member).1
    another (known.imp_left fun member => (mem_without.mp member).1)
  waiting := by
    intro other member failed
    obtain ⟨waits, different⟩ := mem_without.mp member
    rcases List.mem_cons.mp failed with same | before
    · exact different same
    · exact consistent.waiting other waits before
  untouched := by
    intro write last failed
    rcases List.mem_cons.mp failed with same | before
    · exact exclusive write last same
    · exact consistent.untouched write last before
  wired := consistent.wired
  written := consistent.written
  carried := fun write last finished => consistent.carried write last fun member =>
    finished (mem_without.mpr ⟨member, exclusive write last⟩)

/-- A seed replaces the fields. -/
theorem consistent_seed (consistent : Consistent codec state) {wire : ω}
    (exclusive : Exclusive codec state (.seed wire)) :
    Consistent codec (perform codec state (.seed wire)) := by
  simp only [perform]
  cases decoded : codec.decode wire with
  | error error => exact consistent
  | ok fields =>
      have same : ∀ field, overlayAll Completed.tells (fun _ => none)
          (state.history ++ [.seeded fields]) field = state.lastSet field := fun field => by
        rw [lastSet_concat, Completed.tells, Option.none_or]
      have seeded : state.controller.seed codec wire = ⟨fields, true⟩ := by
        rw [CompositeController.seed, decoded]
      exact
        { expected := by
            rw [seeded, State.expected, List.foldl_append]
            rfl
          current := by
            intro field value last
            rw [State.lastSet, same] at last
            rw [seeded]
            exact exclusive fields decoded field value last
          copies := consistent.copies
          fresh := consistent.fresh
          failedFresh := consistent.failedFresh
          unique := consistent.unique
          waiting := consistent.waiting
          untouched := consistent.untouched
          wired := consistent.wired
          written := by
            intro field set
            rw [State.lastSet, same] at set
            exact consistent.written field set
          carried := by
            intro write last finished field value set
            rw [State.lastSet, same] at set
            exact consistent.carried write last finished field value set }

theorem consistent_perform (consistent : Consistent codec state) {label : Label ν ω}
    (exclusive : Exclusive codec state label) (possible : Possible state label) :
    Consistent codec (perform codec state label) := by
  cases label with
  | begin field value => exact consistent_begin consistent field value
  | taken call => exact consistent_taken consistent possible.1
  | succeeded call => exact consistent_succeeded consistent possible.1 possible.2 exclusive
  | failed call => exact consistent_failed consistent possible exclusive
  | seed wire => exact consistent_seed consistent exclusive

/-- No set is lost in a run of exclusive sets: each commits its own field only, its wire value carries
what has been set, a wire value that the device has taken belongs to a call that does not fail, and
seeds agree with what has been set. -/
theorem run_kept {labels : List (Label ν ω)} {state : State ν ω}
    (run : (machine codec).Run (Exclusive codec) labels state) : Kept codec state := by
  have consistent : Consistent codec state := run.invariant
    (fun _ starts => starts ▸ consistent_initial)
    fun before label next consistent exclusive step => by
      obtain ⟨possible, rfl⟩ := step
      exact consistent_perform consistent exclusive possible
  refine ⟨consistent.expected, consistent.untouched, fun finished field value last => ?_⟩
  obtain ⟨write, taken⟩ := Option.ne_none_iff_exists'.mp
    (consistent.written field (by simp [last]))
  exact ⟨consistent.current field value last, write, taken,
    consistent.carried write taken (by simp [finished]) field value last⟩

/-! ## A brightness setting -/

/-- A value of a brightness field. -/
inductive Setting where
  | flag (value : Bool)
  | whole (value : ℤ)
  deriving DecidableEq, Repr

/-- The dictionary of a brightness setting. -/
def settings (auto : Bool) (colour bw : ℤ) : Fields Setting := fun field =>
  [("auto", .flag auto), ("colour", .whole colour), ("bw", .whole bw)].lookup field

/-- `BrightnessCodec` on dictionaries. -/
def brightnessCodec : Codec Setting JsonText.Text where
  defaults := settings true 100 100
  encode fields :=
    match fields "auto", fields "colour", fields "bw" with
    | some (.flag auto), some (.whole colour), some (.whole bw) =>
        Codecs.brightness.encode (Codecs.brightnessFields auto colour bw)
    | none, _, _ | _, none, _ | _, _, none => .error .keyError
    | _, _, _ => .error .typeError
  decode wire := (Codecs.brightness.decode wire).map fun fields =>
    settings (fields Codecs.BrightnessName.auto) (fields Codecs.BrightnessName.colour)
      (fields Codecs.BrightnessName.bw)

/-- The wire value of a colour brightness of 40 and one of 50 in black and white. -/
def fortyFifty : JsonText.Text := JsonText.ofChars ['3', '2', '7', '6', '8', '4', '0']

/-- The wire value of 60 and 50. -/
def sixtyFifty : JsonText.Text := JsonText.ofChars ['3', '2', '7', '6', '8', '6', '0']

/-- The wire value of 60 and 70. -/
def sixtySeventy : JsonText.Text := JsonText.ofChars ['4', '5', '8', '7', '5', '8', '0']

/-- The wire value of 40 and 70. -/
def fortySeventy : JsonText.Text := JsonText.ofChars ['4', '5', '8', '7', '5', '6', '0']

/-- The call that sets the colour brightness of a setting to 60. -/
def colourCall : Call Setting JsonText.Text :=
  ⟨0, "colour", .whole 60, Function.update (settings false 40 50) "colour" (some (.whole 60)),
    sixtyFifty⟩

/-- The call that then sets the brightness in black and white to 70. -/
def laterCall : Call Setting JsonText.Text :=
  ⟨1, "bw", .whole 70, Function.update (settings false 60 50) "bw" (some (.whole 70)), sixtySeventy⟩

/-- The call that sets it to 70 before the other one is over. -/
def bwCall : Call Setting JsonText.Text :=
  ⟨1, "bw", .whole 70, Function.update (settings false 40 50) "bw" (some (.whole 70)), fortySeventy⟩

/-- Once the colour brightness has been set and seeds have come in, nothing else has been set. -/
theorem told_colour (first second : Fields Setting) {history : List (Completed Setting)}
    (done : history = [.seeded first, .set "colour" (.whole 60)] ∨
      history = [.seeded first, .set "colour" (.whole 60), .seeded second])
    {field : String} {value : Setting}
    (last : overlayAll Completed.tells (fun _ => none) history field = some value) :
    field = "colour" ∧ value = .whole 60 := by
  rcases done with rfl | rfl
  · simpa [overlayAll, overlay, Completed.tells, eq_comm] using last
  · simpa [overlayAll, overlay, Completed.tells, eq_comm] using last

/-- Two sets of siblings with a seed between them are kept. -/
theorem sibling_sets_kept : ∃ labels state,
    (machine brightnessCodec).Run (Exclusive brightnessCodec) labels state ∧
      labels = [.seed fortyFifty, .begin "colour" (.whole 60), .taken colourCall,
        .succeeded colourCall, .seed sixtyFifty, .begin "bw" (.whole 70), .taken laterCall,
        .succeeded laterCall] ∧
      state.lastSet "colour" = some (.whole 60) ∧ state.lastSet "bw" = some (.whole 70) ∧
        Kept brightnessCodec state := by
  have start : (machine brightnessCodec).Run (Exclusive brightnessCodec) []
    (initial brightnessCodec) := .start rfl
  have seeds := start.extend (.seed fortyFifty) (fun _ _ _ _ last => by cases last) ⟨trivial, rfl⟩
  have begins := seeds.extend (.begin "colour" (.whole 60)) trivial
    ⟨fun _ member => absurd member List.not_mem_nil, rfl⟩
  have takes := begins.extend (.taken colourCall) trivial
    ⟨⟨List.mem_cons_self, List.not_mem_nil⟩, rfl⟩
  have succeeds := takes.extend (.succeeded colourCall)
    (by
      refine ⟨fun other different => Function.update_of_ne different .., ?_, ?_⟩
      · rintro field value (rfl | set) copy
        · cases copy
          exact ⟨_, rfl, rfl⟩
        · exact absurd rfl set
      · intro write last different
        cases last
        exact absurd rfl different)
    ⟨⟨List.mem_cons_self, List.mem_cons_self⟩, rfl⟩
  have again := succeeds.extend (.seed sixtyFifty)
    (by
      intro fields decoded field value last
      obtain ⟨rfl, rfl⟩ :=
        told_colour (settings false 40 50) (settings false 60 50) (Or.inl rfl) last
      cases decoded
      rfl)
    ⟨trivial, rfl⟩
  have beginsLater := again.extend (.begin "bw" (.whole 70)) trivial
    ⟨fun _ member => absurd member List.not_mem_nil, rfl⟩
  have takesLater := beginsLater.extend (.taken laterCall) trivial
    ⟨⟨List.mem_cons_self, show 1 ∉ [0] by simp⟩, rfl⟩
  have ends := takesLater.extend (.succeeded laterCall)
    (by
      refine ⟨fun other different => Function.update_of_ne different .., ?_, ?_⟩
      · rintro field value (rfl | set) copy
        · cases copy
          exact ⟨_, rfl, rfl⟩
        · obtain ⟨told, last⟩ := Option.ne_none_iff_exists'.mp set
          obtain ⟨rfl, rfl⟩ :=
            told_colour (settings false 40 50) (settings false 60 50) (Or.inr rfl) last
          cases copy
          exact ⟨_, rfl, rfl⟩
      · intro write last different
        cases last
        exact absurd rfl different)
    ⟨⟨List.mem_cons_self, List.mem_cons_self⟩, rfl⟩
  exact ⟨_, _, ends, rfl, rfl, rfl, run_kept ends⟩

/-- Of two sets at once one is undone. -/
theorem overlapping_set_undone : ∃ labels state,
    (machine brightnessCodec).Run (fun _ _ => True) labels state ∧
      labels = [.seed fortyFifty, .begin "colour" (.whole 60), .begin "bw" (.whole 70),
        .taken colourCall, .taken bwCall, .succeeded colourCall, .succeeded bwCall] ∧
      ¬ Kept brightnessCodec state := by
  have start : (machine brightnessCodec).Run (fun _ _ => True) [] (initial brightnessCodec) :=
    .start rfl
  have seeds := start.extend (.seed fortyFifty) trivial ⟨trivial, rfl⟩
  have first := seeds.extend (.begin "colour" (.whole 60)) trivial
    ⟨fun _ member => absurd member List.not_mem_nil, rfl⟩
  have second := first.extend (.begin "bw" (.whole 70)) trivial
    ⟨fun call member => by
      cases List.mem_singleton.mp (show call ∈ [colourCall] from member)
      simp [colourCall], rfl⟩
  have firstTaken := second.extend (.taken colourCall) trivial
    ⟨⟨List.mem_cons_self, List.not_mem_nil⟩, rfl⟩
  have secondTaken := firstTaken.extend (.taken bwCall) trivial
    ⟨⟨List.mem_cons_of_mem _ List.mem_cons_self, show 1 ∉ [0] by simp⟩, rfl⟩
  have firstEnds := secondTaken.extend (.succeeded colourCall) trivial
    ⟨⟨List.mem_cons_self, List.mem_cons_of_mem _ List.mem_cons_self⟩, rfl⟩
  have secondEnds := firstEnds.extend (.succeeded bwCall) trivial
    ⟨⟨List.mem_cons_self, List.mem_cons_self⟩, rfl⟩
  refine ⟨_, _, secondEnds, rfl, fun kept => ?_⟩
  obtain ⟨lost, -⟩ := kept.settled rfl "colour" (.whole 60) rfl
  cases lost

end Composite
end Reference
end AqaraLanLink
