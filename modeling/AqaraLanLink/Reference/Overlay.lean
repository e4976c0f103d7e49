import AqaraLanLink.Library.Overlay
import AqaraLanLink.Library.Runs
import AqaraLanLink.Reference.Catalogue

/-!
# The overlay store

`device/overlay.py`, and the two flows that write it: `repairs.py` saves the copy that its config
entry loaded at startup, and `config_flow.py` loads a fresh one.  They share one file, and what
happens to it is a labelled transition system.
-/

namespace AqaraLanLink
namespace Reference

open Library

/-! ## Rows -/

/-- A Unicode control character, of category `Cc`. -/
def isControl (char : Char) : Bool :=
  char.toNat < 0x20 || (0x7F ≤ char.toNat && char.toNat < 0xA0)

/-- `_has_control_char`. -/
def hasControlChar (text : String) : Bool := text.toList.any isControl

/-- The text of a platform. -/
def Platform.text : Platform → String
  | .sensor => "sensor"
  | .binarySensor => "binary_sensor"
  | .switch => "switch"
  | .number => "number"
  | .select => "select"
  | .event => "event"
  | .button => "button"

/-- The platform with a text, if it is one of `_VALID_PLATFORMS`. -/
def Platform.ofText (text : String) : Option Platform :=
  [sensor, binarySensor, switch, number, select, event, button].find? fun platform =>
    platform.text = text

theorem Platform.ofText_text (platform : Platform) : ofText platform.text = some platform := by
  cases platform <;> decide

/-- The checks of `TraitSpec.__post_init__`. -/
def TraitSpec.valid (spec : TraitSpec) : Bool :=
  ([some spec.id, some spec.name, some spec.dataType, spec.unit, spec.wirePath,
      spec.deviceClass].all fun text => text.all fun text => !hasControlChar text) &&
    (spec.enumValues.all fun labels => labels.entries.all fun entry =>
      !hasControlChar entry.1 && !hasControlChar entry.2) &&
    (spec.stateClass.isNone || spec.platform == some .sensor) &&
    ((spec.scale.isNone && spec.unitOfMeasurement.isNone &&
        spec.suggestedDisplayPrecision.isNone) ||
      spec.platform == some .sensor || spec.platform == some .number) &&
    (spec.scale.all fun scale => scale ≠ 0) &&
    (spec.autoClearSeconds.all fun seconds =>
      spec.platform == some .binarySensor && decide (0 < seconds))

/-- A row of the file. -/
structure Row where
  name : Option String := none
  dataType : Option String := none
  writable : Option Bool := none
  wirePath : Option String := none
  unit : Option String := none
  enumValues : Option (Dictionary String String) := none
  platform : Option String := none
  deviceClass : Option String := none
  autoClearSeconds : Option ℚ := none
  deriving DecidableEq

/-- The platform of a row, unless it is a text that the constructor refuses. -/
def Row.platform? (row : Row) : Option (Option Platform) :=
  match row.platform with
  | none => some none
  | some text => (Platform.ofText text).map some

/-- `_row_to_traitspec`; a row that the constructor refuses is dropped. -/
def rowToTraitspec (pid : String) (row : Row) : Option TraitSpec :=
  row.platform?.bind fun platform =>
    let spec : TraitSpec :=
      { id := pid
        name := row.name.getD ""
        wirePath := given row.wirePath
        dataType := row.dataType.getD "unknown"
        unit := row.unit
        writable := row.writable.getD true
        enumValues := row.enumValues
        platform
        deviceClass := row.deviceClass
        autoClearSeconds := row.autoClearSeconds }
    if spec.valid then some spec else none

/-- `_traitspec_to_row`. -/
def traitspecToRow (spec : TraitSpec) : Row where
  name := some spec.name
  dataType := some spec.dataType
  writable := some spec.writable
  wirePath := given spec.wirePath
  unit := given spec.unit
  enumValues := spec.labels
  platform := spec.platform.map Platform.text
  deviceClass := given spec.deviceClass
  autoClearSeconds := spec.autoClearSeconds

/-- What is left of a trait when its row is loaded again. -/
def TraitSpec.stored (spec : TraitSpec) : TraitSpec where
  id := spec.id
  name := spec.name
  wirePath := given spec.wirePath
  dataType := spec.dataType
  unit := given spec.unit
  writable := spec.writable
  enumValues := spec.labels
  platform := spec.platform
  deviceClass := given spec.deviceClass
  autoClearSeconds := spec.autoClearSeconds

@[simp] theorem given_given (text : Option String) : given (given text) = given text := by
  simp [given, Option.filter_filter]

theorem all_filter {α : Type} {value : Option α} {keep holds : α → Bool}
    (all : value.all holds = true) : (value.filter keep).all holds = true := by
  cases value with
  | none => rfl
  | some value =>
      rw [Option.filter]
      split
      · exact all
      · rfl

theorem TraitSpec.valid_stored {spec : TraitSpec} (valid : spec.valid = true) :
    spec.stored.valid = true := by
  simp only [TraitSpec.valid, Bool.and_eq_true, List.all_cons] at valid ⊢
  obtain ⟨⟨⟨⟨⟨⟨id, name, dataType, unit, wirePath, deviceClass, -⟩, labels⟩, -⟩, -⟩, -⟩, clears⟩ :=
    valid
  exact ⟨⟨⟨⟨⟨⟨id, name, dataType, all_filter unit, all_filter wirePath, all_filter deviceClass,
    List.all_nil⟩, all_filter labels⟩, rfl⟩, rfl⟩, rfl⟩, clears⟩

/-- A row that was written is loaded. -/
theorem rowToTraitspec_traitspecToRow {spec : TraitSpec} (valid : spec.valid = true) :
    rowToTraitspec spec.id (traitspecToRow spec) = some spec.stored := by
  have platform : (traitspecToRow spec).platform? = some spec.platform := by
    rw [Row.platform?, traitspecToRow]
    cases spec.platform with
    | none => rfl
    | some platform => simp [Platform.ofText_text]
  have kept := TraitSpec.valid_stored valid
  rw [rowToTraitspec, platform, Option.bind_some]
  simp only [TraitSpec.stored, traitspecToRow, given_given, Option.getD_some] at kept ⊢
  rw [if_pos kept]

/-- A trait that was loaded is written as before. -/
theorem traitspecToRow_stored (spec : TraitSpec) :
    traitspecToRow spec.stored = traitspecToRow spec := by
  have labels : spec.stored.labels = spec.labels := by
    simp [TraitSpec.stored, TraitSpec.labels, Option.filter_filter]
  simp only [traitspecToRow, labels]
  simp [TraitSpec.stored]

/-! ## The store -/

/-- A trait by its model and its id. -/
abbrev OverlayKey := String × String

/-- `Overlay`, by the traits of all models. -/
abbrev Overlay := OverlayKey → Option TraitSpec

/-- The rows of the file. -/
abbrev OverlayFile := OverlayKey → Option Row

namespace OverlayStore

/-- `OverlayStore.async_load`, of what a read of the file returns or raises. -/
def asyncLoad : Except String OverlayFile → Overlay
  | .error _ => fun _ => none
  | .ok file => fun key => (file key).bind (rowToTraitspec key.2)

/-- The file that `OverlayStore.async_write` writes. -/
def asyncWrite (overlay : Overlay) : OverlayFile := fun key => (overlay key).map traitspecToRow

/-- A trait that is set says what its key is. -/
def accepts (entry : OverlayKey × TraitSpec) : Overlay :=
  fun key => if key = entry.1 then some entry.2 else none

/-- `set_trait` for every trait of a list. -/
def setTraits (overlay : Overlay) (accepted : List (OverlayKey × TraitSpec)) : Overlay :=
  overlayAll accepts overlay accepted

theorem setTraits_concat (overlay : Overlay) (earlier later : List (OverlayKey × TraitSpec)) :
    setTraits overlay (earlier ++ later) = setTraits (setTraits overlay earlier) later :=
  overlayAll_append

/-- A trait has the spec that is set last among others, or the one that it had. -/
theorem setTraits_apply (overlay : Overlay) (accepted : List (OverlayKey × TraitSpec))
    (key : OverlayKey) :
    setTraits overlay accepted key = (setTraits (fun _ => none) accepted key).or (overlay key) := by
  rw [setTraits, setTraits, overlayAll_apply, overlayAll_apply, Option.or_none]

theorem mem_of_setTraits {accepted : List (OverlayKey × TraitSpec)} {key : OverlayKey}
    {spec : TraitSpec} (set : setTraits (fun _ => none) accepted key = some spec) :
    (key, spec) ∈ accepted := by
  rw [setTraits, overlayAll_apply, Option.or_none, Option.bind_eq_some_iff] at set
  obtain ⟨⟨other, otherSpec⟩, found, tells⟩ := set
  rw [accepts] at tells
  split at tells
  · next same =>
      obtain rfl : key = other := same
      obtain rfl : otherSpec = spec := Option.some.inj tells
      exact mem_of_latest found
  · cases tells

/-- A trait that a flow accepts has been constructed and is filed under its id. -/
def Acceptable (accepted : List (OverlayKey × TraitSpec)) : Prop :=
  ∀ entry ∈ accepted, entry.2.valid = true ∧ entry.1.2 = entry.2.id

/-- The specs of an overlay have been constructed and are filed under their ids. -/
def WellFiled (overlay : Overlay) : Prop :=
  ∀ key spec, overlay key = some spec → spec.valid = true ∧ key.2 = spec.id

/-- No row of a file is dropped. -/
def Whole (file : OverlayFile) : Prop :=
  ∀ key row, file key = some row → (rowToTraitspec key.2 row).isSome = true

theorem wellFiled_setTraits {overlay : Overlay} (filed : WellFiled overlay)
    {accepted : List (OverlayKey × TraitSpec)} (acceptable : Acceptable accepted) :
    WellFiled (setTraits overlay accepted) := by
  intro key spec set
  rw [setTraits_apply, Option.or_eq_some_iff] at set
  rcases set with set | ⟨-, had⟩
  · exact acceptable (key, spec) (mem_of_setTraits set)
  · exact filed key spec had

theorem rowToTraitspec_valid {pid : String} {row : Row} {spec : TraitSpec}
    (loaded : rowToTraitspec pid row = some spec) : spec.valid = true ∧ pid = spec.id := by
  rw [rowToTraitspec, Option.bind_eq_some_iff] at loaded
  obtain ⟨platform, -, constructed⟩ := loaded
  simp only [Option.ite_none_right_eq_some, Option.some.injEq] at constructed
  obtain ⟨valid, rfl⟩ := constructed
  exact ⟨valid, rfl⟩

theorem wellFiled_asyncLoad (read : Except String OverlayFile) : WellFiled (asyncLoad read) := by
  intro key spec loaded
  cases read with
  | error error => cases loaded
  | ok file =>
      obtain ⟨row, -, loaded⟩ := Option.bind_eq_some_iff.mp loaded
      exact rowToTraitspec_valid loaded

/-- A load returns what is left of every trait that was written. -/
theorem asyncLoad_asyncWrite {overlay : Overlay} (filed : WellFiled overlay) :
    asyncLoad (.ok (asyncWrite overlay)) = fun key => (overlay key).map TraitSpec.stored := by
  funext key
  simp only [asyncLoad, asyncWrite]
  cases had : overlay key with
  | none => rfl
  | some spec =>
      obtain ⟨valid, named⟩ := filed key spec had
      simp only [Option.map_some, Option.bind_some, named]
      exact rowToTraitspec_traitspecToRow valid

/-- What was written is written as before once it has been loaded. -/
theorem asyncWrite_asyncLoad_asyncWrite {overlay : Overlay} (filed : WellFiled overlay) :
    asyncWrite (asyncLoad (.ok (asyncWrite overlay))) = asyncWrite overlay := by
  rw [asyncLoad_asyncWrite filed]
  funext key
  simp only [asyncWrite, Option.map_map]
  congr 1
  funext spec
  exact traitspecToRow_stored spec

theorem whole_asyncWrite {overlay : Overlay} (filed : WellFiled overlay) :
    Whole (asyncWrite overlay) := by
  intro key row written
  obtain ⟨spec, had, rfl⟩ := Option.map_eq_some_iff.mp written
  obtain ⟨valid, named⟩ := filed key spec had
  rw [named, rowToTraitspec_traitspecToRow valid]
  rfl

/-- What is written of a trait that has been set, or of one that was there. -/
theorem asyncWrite_setTraits (overlay : Overlay) (accepted : List (OverlayKey × TraitSpec))
    (key : OverlayKey) :
    asyncWrite (setTraits overlay accepted) key =
      (asyncWrite (setTraits (fun _ => none) accepted) key).or (asyncWrite overlay key) := by
  simp only [asyncWrite]
  rw [setTraits_apply, Option.map_or]

/-! ## The machine -/

/-- What a load returned. -/
structure Copy where
  /-- The number of the load. -/
  load : ℕ
  /-- The overlay. -/
  overlay : Overlay

/-- A write that has been asked for. -/
structure Write where
  /-- The number of the load whose copy it writes. -/
  load : ℕ
  /-- The file that it writes. -/
  payload : OverlayFile
  /-- The traits that were accepted. -/
  accepted : List (OverlayKey × TraitSpec)

/-- The file, the config entries and the writes. -/
structure State where
  /-- The file as it was in the beginning. -/
  first : OverlayFile
  /-- The file. -/
  file : OverlayFile
  /-- `runtime.overlay` of the config entries that are loaded. -/
  entries : ℕ → Option Copy
  /-- The writes that have not been made, in the order in which they were asked for. -/
  pending : List Write
  /-- The number of the next load. -/
  next : ℕ
  /-- The loads that missed nothing, as long as no other copy has been written since. -/
  current : ℕ → Prop
  /-- The traits whose acceptance has been written, in order. -/
  history : List (OverlayKey × TraitSpec)

/-- What happens. -/
inductive Label where
  /-- A config entry is set up or reloaded; the read of the file can raise. -/
  | startup (entry : ℕ) (raised : Option String)
  /-- A config entry is unloaded. -/
  | unload (entry : ℕ)
  /-- Rows of a scan review are accepted. -/
  | review (entry : ℕ) (accepted : List (OverlayKey × TraitSpec))
  /-- Rows are accepted in the flow that adds a device; the read of the file can raise. -/
  | bootstrap (raised : Option String) (accepted : List (OverlayKey × TraitSpec))
  /-- A write is made: the one that waits behind the given number of others. -/
  | written (place : ℕ)

/-- When a label can occur. -/
def Possible (state : State) : Label → Prop
  | .startup _ _ | .unload _ => True
  | .review entry accepted => state.entries entry ≠ none ∧ Acceptable accepted
  | .bootstrap _ accepted => Acceptable accepted
  | .written place =>
      -- One store makes its writes in order; other stores do not wait for it.
      ∃ write, state.pending[place]? = some write ∧
        ∀ other ∈ state.pending.take place, other.load ≠ write.load

/-- What a read of the file returns or raises. -/
def State.read (state : State) : Option String → Except String OverlayFile
  | some error => .error error
  | none => .ok state.file

/-- Load the overlay. -/
def State.loaded (state : State) (raised : Option String) : State :=
  { state with
    next := state.next + 1
    current := fun load =>
      state.current load ∨ (load = state.next ∧ raised = none ∧ Whole state.file) }

/-- Ask for the write of a copy. -/
def State.save (state : State) (copy : Copy) (accepted : List (OverlayKey × TraitSpec)) : State :=
  { state with pending := state.pending ++ [⟨copy.load, asyncWrite copy.overlay, accepted⟩] }

/-- What a label does. -/
def perform (state : State) : Label → State
  | .startup entry raised =>
      let copy : Copy := ⟨state.next, asyncLoad (state.read raised)⟩
      { state.loaded raised with entries := Function.update state.entries entry (some copy) }
  | .unload entry => { state with entries := Function.update state.entries entry none }
  | .review entry accepted =>
      match state.entries entry with
      | none => state
      | some copy =>
          -- The copy of the config entry is changed in place.
          let copy : Copy := ⟨copy.load, setTraits copy.overlay accepted⟩
          State.save { state with entries := Function.update state.entries entry (some copy) }
            copy accepted
  | .bootstrap raised accepted =>
      let overlay := asyncLoad (state.read raised)
      (state.loaded raised).save ⟨state.next, setTraits overlay accepted⟩ accepted
  | .written place =>
      match state.pending[place]? with
      | none => state
      | some write =>
          { state with
            file := write.payload
            pending := state.pending.eraseIdx place
            current := fun load => state.current load ∧ load = write.load
            history := state.history ++ write.accepted }

/-- Nothing is loaded, and nothing has been accepted. -/
structure Begins (state : State) : Prop where
  file : state.file = state.first
  entries : ∀ entry, state.entries entry = none
  pending : state.pending = []
  current : ∀ load, ¬state.current load
  history : state.history = []

/-- The labelled transition system. -/
def machine : Machine State Label where
  initial := Begins
  step state label next := Possible state label ∧ next = perform state label

/-- The latest spec with which a trait was accepted. -/
def State.accepted (state : State) : Overlay := setTraits (fun _ => none) state.history

/-- The file keeps what was accepted, and what it had. -/
structure Preserved (state : State) : Prop where
  /-- Every accepted trait is stored with its latest accepted spec. -/
  stored : ∀ key spec, state.accepted key = some spec →
    state.file key = some (traitspecToRow spec)
  /-- A trait that the file had in the beginning is still there. -/
  kept : ∀ key, (state.first key).isSome = true → (state.file key).isSome = true

/-- The load of the copy that is written missed nothing, and no other copy has been written
since. -/
def Current (state : State) : Label → Prop
  | .written place => ∀ write, state.pending[place]? = some write → state.current write.load
  | _ => True

/-! ## The copies that are current -/

/-- The writes of a copy that have not been made. -/
def State.waiting (state : State) (load : ℕ) : List Write :=
  state.pending.filter fun write => write.load = load

/-- Every write adds what it accepts to the file that the one before it wrote. -/
def Chained : OverlayFile → List Write → Prop
  | _, [] => True
  | file, write :: later =>
      write.payload = asyncWrite (setTraits (asyncLoad (.ok file)) write.accepted) ∧
        Chained write.payload later

/-- The file once the writes have been made. -/
def newest : OverlayFile → List Write → OverlayFile
  | file, [] => file
  | _, write :: later => newest write.payload later

theorem newest_concat (file : OverlayFile) (writes : List Write) (write : Write) :
    newest file (writes ++ [write]) = write.payload := by
  induction writes generalizing file with
  | nil => rfl
  | cons first later induction => exact induction first.payload

theorem chained_concat {file : OverlayFile} {writes : List Write} {write : Write}
    (chained : Chained file writes)
    (adds : write.payload =
      asyncWrite (setTraits (asyncLoad (.ok (newest file writes))) write.accepted)) :
    Chained file (writes ++ [write]) := by
  induction writes generalizing file with
  | nil => exact ⟨adds, trivial⟩
  | cons first later induction => exact ⟨chained.1, induction chained.2 adds⟩

/-- What is written depends on what would have been written before. -/
theorem asyncWrite_setTraits_congr {one other : Overlay} (same : asyncWrite one = asyncWrite other)
    (accepted : List (OverlayKey × TraitSpec)) :
    asyncWrite (setTraits one accepted) = asyncWrite (setTraits other accepted) := by
  funext key
  rw [asyncWrite_setTraits one, asyncWrite_setTraits other, same]

/-- What holds in a run whose writes are of current copies. -/
structure Consistent (state : State) : Prop extends Preserved state where
  /-- What was accepted had been constructed. -/
  acceptable : Acceptable state.history
  /-- The traits of a copy have been constructed. -/
  filed : ∀ entry copy, state.entries entry = some copy → WellFiled copy.overlay
  /-- A load has one number. -/
  numbered : ∀ entry copy, state.entries entry = some copy → copy.load < state.next
  /-- A copy belongs to one config entry. -/
  apart : ∀ one other copy copy', state.entries one = some copy →
    state.entries other = some copy' → copy.load = copy'.load → one = other
  /-- A write is of an earlier load, and what it accepts had been constructed. -/
  writes : ∀ write ∈ state.pending, write.load < state.next ∧ Acceptable write.accepted
  /-- A copy that is current has been loaded. -/
  known : ∀ load, state.current load → load < state.next
  /-- While a copy is current, no row is dropped. -/
  whole : ∀ load, state.current load → Whole state.file
  /-- The writes of a current copy follow each other. -/
  chained : ∀ load, state.current load → Chained state.file (state.waiting load)
  /-- A current copy is what its writes lead to. -/
  agrees : ∀ entry copy, state.entries entry = some copy → state.current copy.load →
    asyncWrite copy.overlay =
      asyncWrite (asyncLoad (.ok (newest state.file (state.waiting copy.load))))

theorem waiting_save_same (state : State) (copy : Copy) (accepted : List (OverlayKey × TraitSpec)) :
    (state.save copy accepted).waiting copy.load =
      state.waiting copy.load ++ [⟨copy.load, asyncWrite copy.overlay, accepted⟩] := by
  simp [State.waiting, State.save]

theorem waiting_save_other (state : State) (copy : Copy)
    (accepted : List (OverlayKey × TraitSpec)) {load : ℕ} (other : copy.load ≠ load) :
    (state.save copy accepted).waiting load = state.waiting load := by
  simp [State.waiting, State.save, other]

/-- The write that is made is the first of its copy. -/
theorem waiting_of_first {state : State} {place : ℕ} {write : Write}
    (found : state.pending[place]? = some write)
    (first : ∀ other ∈ state.pending.take place, other.load ≠ write.load) :
    state.waiting write.load =
      write :: (state.pending.eraseIdx place).filter fun other => other.load = write.load := by
  obtain ⟨bound, here⟩ := List.getElem?_eq_some_iff.mp found
  have earlier : (state.pending.take place).filter
      (fun other => decide (other.load = write.load)) = [] := by
    rw [List.filter_eq_nil_iff]
    intro other member
    simp [first other member]
  have apart : state.pending = state.pending.take place ++ write :: state.pending.drop (place + 1) := by
    rw [← here, ← List.drop_eq_getElem_cons bound, List.take_append_drop]
  calc state.waiting write.load
      = (state.pending.take place ++ write :: state.pending.drop (place + 1)).filter
          (fun other => decide (other.load = write.load)) := by rw [← apart]; rfl
    _ = write :: (state.pending.drop (place + 1)).filter
          (fun other => decide (other.load = write.load)) := by
        rw [List.filter_append, earlier, List.nil_append, List.filter_cons_of_pos (by simp)]
    _ = _ := by
        rw [List.eraseIdx_eq_take_drop_succ, List.filter_append, earlier, List.nil_append]

/-- A load that is new has no writes. -/
theorem waiting_of_new {state : State} (consistent : Consistent state) :
    state.waiting state.next = [] := by
  rw [State.waiting, List.filter_eq_nil_iff]
  intro write member
  have earlier := (consistent.writes write member).1
  simp only [decide_eq_true_eq]
  omega

theorem consistent_loaded {state : State} (consistent : Consistent state)
    (raised : Option String) : Consistent (state.loaded raised) where
  stored := consistent.stored
  kept := consistent.kept
  acceptable := consistent.acceptable
  filed := consistent.filed
  numbered := fun entry copy loaded => Nat.lt_succ_of_lt (consistent.numbered entry copy loaded)
  apart := consistent.apart
  writes := fun write member =>
    ⟨Nat.lt_succ_of_lt (consistent.writes write member).1, (consistent.writes write member).2⟩
  known := by
    rintro load (current | ⟨rfl, -, -⟩)
    · exact Nat.lt_succ_of_lt (consistent.known load current)
    · exact Nat.lt_succ_self state.next
  whole := by
    rintro load (current | ⟨-, -, whole⟩)
    · exact consistent.whole load current
    · exact whole
  chained := by
    rintro load (current | ⟨rfl, -, -⟩)
    · exact consistent.chained load current
    · rw [show (state.loaded raised).waiting state.next = [] from waiting_of_new consistent]
      trivial
  agrees := by
    rintro entry copy loaded (current | ⟨same, -, -⟩)
    · exact consistent.agrees entry copy loaded current
    · have earlier := consistent.numbered entry copy loaded
      omega

theorem consistent_unload {state : State} (consistent : Consistent state) (entry : ℕ) :
    Consistent { state with entries := Function.update state.entries entry none } := by
  have remains : ∀ {other copy}, Function.update state.entries entry none other = some copy →
      state.entries other = some copy := by
    intro other copy loaded
    rw [Function.update_apply] at loaded
    split at loaded
    · cases loaded
    · exact loaded
  exact
    { stored := consistent.stored
      kept := consistent.kept
      acceptable := consistent.acceptable
      filed := fun other copy loaded => consistent.filed other copy (remains loaded)
      numbered := fun other copy loaded => consistent.numbered other copy (remains loaded)
      apart := fun one other copy copy' loaded loaded' =>
        consistent.apart one other copy copy' (remains loaded) (remains loaded')
      writes := consistent.writes
      known := consistent.known
      whole := consistent.whole
      chained := consistent.chained
      agrees := fun other copy loaded => consistent.agrees other copy (remains loaded) }

/-- A config entry gets a copy that no other one has. -/
theorem consistent_enter {state : State} (consistent : Consistent state) (entry : ℕ) {copy : Copy}
    (filed : WellFiled copy.overlay) (numbered : copy.load < state.next)
    (free : ∀ other copy', state.entries other = some copy' → copy'.load ≠ copy.load)
    (agrees : state.current copy.load → asyncWrite copy.overlay =
      asyncWrite (asyncLoad (.ok (newest state.file (state.waiting copy.load))))) :
    Consistent { state with entries := Function.update state.entries entry (some copy) } := by
  have split : ∀ {other copy'}, Function.update state.entries entry (some copy) other = some copy' →
      (other = entry ∧ copy' = copy) ∨ (other ≠ entry ∧ state.entries other = some copy') := by
    intro other copy' loaded
    rw [Function.update_apply] at loaded
    split at loaded
    · next same => exact .inl ⟨same, (Option.some.inj loaded).symm⟩
    · next differs => exact .inr ⟨differs, loaded⟩
  refine
    { stored := consistent.stored
      kept := consistent.kept
      acceptable := consistent.acceptable
      filed := fun other copy' loaded => ?_
      numbered := fun other copy' loaded => ?_
      apart := fun one other copy₁ copy₂ loaded₁ loaded₂ same => ?_
      writes := consistent.writes
      known := consistent.known
      whole := consistent.whole
      chained := consistent.chained
      agrees := fun other copy' loaded => ?_ }
  · rcases split loaded with ⟨-, rfl⟩ | ⟨-, had⟩
    · exact filed
    · exact consistent.filed other copy' had
  · rcases split loaded with ⟨-, rfl⟩ | ⟨-, had⟩
    · exact numbered
    · exact consistent.numbered other copy' had
  · rcases split loaded₁ with ⟨rfl, rfl⟩ | ⟨-, had₁⟩ <;>
      rcases split loaded₂ with ⟨rfl, rfl⟩ | ⟨-, had₂⟩
    · rfl
    · exact absurd same.symm (free other copy₂ had₂)
    · exact absurd same (free one copy₁ had₁)
    · exact consistent.apart one other copy₁ copy₂ had₁ had₂ same
  · rcases split loaded with ⟨-, rfl⟩ | ⟨-, had⟩
    · exact agrees
    · exact consistent.agrees other copy' had

/-- The write of a copy that no config entry holds is asked for. -/
theorem consistent_save {state : State} (consistent : Consistent state) {copy : Copy}
    {accepted : List (OverlayKey × TraitSpec)} (acceptable : Acceptable accepted)
    (numbered : copy.load < state.next)
    (free : ∀ other copy', state.entries other = some copy' → copy'.load ≠ copy.load)
    (adds : state.current copy.load → asyncWrite copy.overlay = asyncWrite
      (setTraits (asyncLoad (.ok (newest state.file (state.waiting copy.load)))) accepted)) :
    Consistent (state.save copy accepted) where
  stored := consistent.stored
  kept := consistent.kept
  acceptable := consistent.acceptable
  filed := consistent.filed
  numbered := consistent.numbered
  apart := consistent.apart
  writes := by
    intro write member
    rcases List.mem_append.mp member with old | new
    · exact consistent.writes write old
    · cases List.mem_singleton.mp new
      exact ⟨numbered, acceptable⟩
  known := consistent.known
  whole := consistent.whole
  chained := by
    intro load current
    by_cases same : copy.load = load
    · subst same
      rw [waiting_save_same]
      exact chained_concat (consistent.chained copy.load current) (adds current)
    · rw [waiting_save_other state copy accepted same]
      exact consistent.chained load current
  agrees := by
    intro entry other loaded current
    rw [waiting_save_other state copy accepted (Ne.symm (free entry other loaded))]
    exact consistent.agrees entry other loaded current

theorem consistent_startup {state : State} (consistent : Consistent state) (entry : ℕ)
    (raised : Option String) : Consistent (perform state (.startup entry raised)) := by
  refine consistent_enter (consistent_loaded consistent raised) entry (wellFiled_asyncLoad _)
    (Nat.lt_succ_self state.next)
    (fun other copy had => Nat.ne_of_lt (consistent.numbered other copy had)) ?_
  rintro (current | ⟨-, rfl, -⟩)
  · have earlier := consistent.known state.next current
    omega
  · rw [show (state.loaded none).waiting state.next = [] from waiting_of_new consistent]
    rfl

theorem consistent_bootstrap {state : State} (consistent : Consistent state)
    (raised : Option String) {accepted : List (OverlayKey × TraitSpec)}
    (acceptable : Acceptable accepted) :
    Consistent (perform state (.bootstrap raised accepted)) := by
  refine consistent_save (consistent_loaded consistent raised) acceptable
    (Nat.lt_succ_self state.next)
    (fun other copy had => Nat.ne_of_lt (consistent.numbered other copy had)) ?_
  rintro (current | ⟨-, rfl, -⟩)
  · have earlier := consistent.known state.next current
    omega
  · rw [show (state.loaded none).waiting state.next = [] from waiting_of_new consistent]
    rfl

/-- A copy that is changed agrees with the write that is asked for. -/
theorem consistent_review {state : State} (consistent : Consistent state) {entry : ℕ} {copy : Copy}
    (loaded : state.entries entry = some copy) {accepted : List (OverlayKey × TraitSpec)}
    (acceptable : Acceptable accepted) :
    Consistent (perform state (.review entry accepted)) := by
  have filed := wellFiled_setTraits (consistent.filed entry copy loaded) acceptable
  have numbered := consistent.numbered entry copy loaded
  have free : ∀ other copy', Function.update state.entries entry none other = some copy' →
      copy'.load ≠ copy.load := by
    intro other copy' had same
    rw [Function.update_apply] at had
    split at had
    · cases had
    · next differs => exact differs (consistent.apart other entry copy' copy had loaded same)
  let changed : Copy := ⟨copy.load, setTraits copy.overlay accepted⟩
  have saved : Consistent (State.save _ changed accepted) :=
    consistent_save (consistent_unload consistent entry) acceptable numbered free fun current =>
      asyncWrite_setTraits_congr (consistent.agrees entry copy loaded current) accepted
  have entered := consistent_enter saved entry (show WellFiled changed.overlay from filed) numbered
    free fun _ => by
      rw [waiting_save_same, newest_concat]
      exact (asyncWrite_asyncLoad_asyncWrite filed).symm
  simp only [State.save, Function.update_idem] at entered
  simp only [perform, loaded]
  exact entered

/-- A write of a current copy keeps what the file had and adds what it accepts. -/
theorem consistent_written {state : State} (consistent : Consistent state) {place : ℕ}
    {write : Write} (found : state.pending[place]? = some write)
    (first : ∀ other ∈ state.pending.take place, other.load ≠ write.load)
    (current : state.current write.load) : Consistent (perform state (.written place)) := by
  have acceptable := (consistent.writes write (List.mem_of_getElem? found)).2
  have waiting := waiting_of_first found first
  have chained := consistent.chained write.load current
  rw [waiting] at chained
  obtain ⟨adds, later⟩ := chained
  have filed := wellFiled_setTraits (wellFiled_asyncLoad (.ok state.file)) acceptable
  have whole := consistent.whole write.load current
  simp only [perform, found]
  refine
    { stored := fun key spec accepted => ?_
      kept := fun key there => ?_
      acceptable := ?_
      filed := consistent.filed
      numbered := consistent.numbered
      apart := consistent.apart
      writes := fun other member => consistent.writes other (List.mem_of_mem_eraseIdx member)
      known := fun load current => consistent.known load current.1
      whole := fun load _ => ?_
      chained := ?_
      agrees := ?_ }
  · rw [State.accepted, setTraits_concat, setTraits_apply, Option.or_eq_some_iff] at accepted
    show write.payload key = _
    rw [adds, asyncWrite_setTraits]
    rcases accepted with new | ⟨silent, old⟩
    · simp only [asyncWrite, new, Option.map_some, Option.some_or]
    · obtain ⟨valid, named⟩ := consistent.acceptable (key, spec) (mem_of_setTraits old)
      simp only [asyncWrite, silent, Option.map_none, Option.none_or, asyncLoad,
        consistent.stored key spec old, Option.bind_some]
      rw [show key.2 = spec.id from named, rowToTraitspec_traitspecToRow valid, Option.map_some,
        traitspecToRow_stored]
  · obtain ⟨row, held⟩ := Option.isSome_iff_exists.mp (consistent.kept key there)
    obtain ⟨spec, loads⟩ := Option.isSome_iff_exists.mp (whole key row held)
    show (write.payload key).isSome = true
    rw [adds, asyncWrite_setTraits, Option.isSome_or]
    simp [asyncWrite, asyncLoad, held, loads]
  · exact fun entry member => (List.mem_append.mp member).elim (consistent.acceptable entry)
      (acceptable entry)
  · show Whole write.payload
    rw [adds]
    exact whole_asyncWrite filed
  · rintro load ⟨-, rfl⟩
    exact later
  · rintro entry copy loaded ⟨still, same⟩
    have agrees := consistent.agrees entry copy loaded still
    rw [same, waiting] at agrees
    rw [same]
    exact agrees

theorem consistent_perform {state : State} (consistent : Consistent state) {label : Label}
    (current : Current state label) (possible : Possible state label) :
    Consistent (perform state label) := by
  cases label with
  | startup entry raised => exact consistent_startup consistent entry raised
  | unload entry => exact consistent_unload consistent entry
  | review entry accepted =>
      obtain ⟨copy, loaded⟩ := Option.ne_none_iff_exists'.mp possible.1
      exact consistent_review consistent loaded possible.2
  | bootstrap raised accepted => exact consistent_bootstrap consistent raised possible
  | written place =>
      obtain ⟨write, found, first⟩ := possible
      exact consistent_written consistent found first (current write found)

theorem consistent_begins {state : State} (begins : Begins state) : Consistent state where
  stored := by
    intro key spec accepted
    rw [State.accepted, begins.history] at accepted
    cases accepted
  kept := by
    intro key there
    rw [begins.file]
    exact there
  acceptable := by
    intro entry member
    rw [begins.history] at member
    cases member
  filed := fun entry copy loaded => absurd loaded (by rw [begins.entries]; simp)
  numbered := fun entry copy loaded => absurd loaded (by rw [begins.entries]; simp)
  apart := fun one _ _ _ loaded => absurd loaded (by rw [begins.entries]; simp)
  writes := by
    intro write member
    rw [begins.pending] at member
    cases member
  known := fun load current => absurd current (begins.current load)
  whole := fun load current => absurd current (begins.current load)
  chained := fun load current => absurd current (begins.current load)
  agrees := fun entry copy loaded => absurd loaded (by rw [begins.entries]; simp)

/-- The file loses no trait in a run in which only current copies are written. -/
theorem run_preserved {labels : List Label} {state : State}
    (run : machine.Run Current labels state) : Preserved state := by
  have consistent : Consistent state := run.invariant
    (fun start begins => consistent_begins begins)
    fun before label next consistent current step => by
      obtain ⟨possible, rfl⟩ := step
      exact consistent_perform consistent current possible
  exact consistent.toPreserved

/-- No trait has been accepted for any model. -/
def blank : State where
  first := fun _ => none
  file := fun _ => none
  entries := fun _ => none
  pending := []
  next := 0
  current := fun _ => False
  history := []

theorem blank_begins : Begins blank :=
  ⟨rfl, fun _ => rfl, rfl, fun _ current => current, rfl⟩

/-- A trait of a plug. -/
def plugTrait : OverlayKey × TraitSpec :=
  (("lumi.plug", "4.1.85"), { id := "4.1.85", name := "plug_status" })

/-- A trait of a lock. -/
def lockTrait : OverlayKey × TraitSpec :=
  (("lumi.lock", "13.4.85"), { id := "13.4.85", name := "lock_status" })

theorem plugTrait_acceptable : Acceptable [plugTrait] := by
  intro entry member
  cases List.mem_singleton.mp member
  simp [plugTrait, TraitSpec.valid, hasControlChar, isControl]

theorem lockTrait_acceptable : Acceptable [lockTrait] := by
  intro entry member
  cases List.mem_singleton.mp member
  simp [lockTrait, TraitSpec.valid, hasControlChar, isControl]

/-- A scan review accepts a trait, and the flow that adds a device another one. -/
theorem fresh_accepts_preserved : ∃ labels state, machine.Run Current labels state ∧
    state.history = [plugTrait, lockTrait] ∧ Preserved state := by
  have start : machine.Run Current [] blank := .start blank_begins
  have loaded := start.extend (.startup 0 none) trivial ⟨trivial, rfl⟩
  have reviewed := loaded.extend (.review 0 [plugTrait]) trivial
    ⟨⟨Option.some_ne_none _, plugTrait_acceptable⟩, rfl⟩
  have written := reviewed.extend (.written 0)
    (fun write found => by
      cases found
      exact .inr ⟨rfl, rfl, fun key row held => by cases held⟩)
    ⟨⟨_, rfl, fun other member => by cases member⟩, rfl⟩
  have added := written.extend (.bootstrap none [lockTrait]) trivial ⟨lockTrait_acceptable, rfl⟩
  have rewritten := added.extend (.written 0)
    (fun write found => by
      cases found
      exact .inr ⟨rfl, rfl,
        whole_asyncWrite
          (wellFiled_setTraits (wellFiled_asyncLoad (blank.read none)) plugTrait_acceptable)⟩)
    ⟨⟨_, rfl, fun other member => by cases member⟩, rfl⟩
  exact ⟨_, _, rewritten, rfl, run_preserved rewritten⟩

/-- A scan review of one config entry removes what the review of another one wrote. -/
theorem stale_accept_removes : ∃ labels state, machine.Run (fun _ _ => True) labels state ∧
    labels = [.startup 0 none, .startup 1 none, .review 0 [plugTrait], .written 0,
      .review 1 [lockTrait], .written 0] ∧
    state.history = [plugTrait, lockTrait] ∧ state.file plugTrait.1 = none ∧
    ¬ Preserved state := by
  have start : machine.Run (fun _ _ => True) [] blank := .start blank_begins
  have loaded := start.extend (.startup 0 none) trivial ⟨trivial, rfl⟩
  have both := loaded.extend (.startup 1 none) trivial ⟨trivial, rfl⟩
  have reviewed := both.extend (.review 0 [plugTrait]) trivial
    ⟨⟨Option.some_ne_none _, plugTrait_acceptable⟩, rfl⟩
  have written := reviewed.extend (.written 0) trivial
    ⟨⟨_, rfl, fun other member => by cases member⟩, rfl⟩
  have stale := written.extend (.review 1 [lockTrait]) trivial
    ⟨⟨Option.some_ne_none _, lockTrait_acceptable⟩, rfl⟩
  have removed := stale.extend (.written 0) trivial
    ⟨⟨_, rfl, fun other member => by cases member⟩, rfl⟩
  have gone : asyncWrite (setTraits (fun _ => none) [lockTrait]) plugTrait.1 = none := by
    simp [asyncWrite, setTraits, overlayAll, overlay, accepts, lockTrait, plugTrait]
  have accepted :
      setTraits (fun _ => none) [plugTrait, lockTrait] plugTrait.1 = some plugTrait.2 := by
    simp [setTraits, overlayAll, overlay, accepts, lockTrait, plugTrait]
  refine ⟨_, _, removed, rfl, rfl, gone, fun preserved => ?_⟩
  have stored := preserved.stored plugTrait.1 plugTrait.2 accepted
  exact absurd (gone.symm.trans stored) (by simp)

end OverlayStore
end Reference
end AqaraLanLink
