import AqaraLanLink.Json
import AqaraLanLink.Library.Runs
import AqaraLanLink.Reference.BuildDevice
import Mathlib.Data.Finset.Sort
import Mathlib.Data.String.Basic

/-!
# The cache of observed paths

`device/observed_path_cache.py`, and the gate of `handle_report` in `device/base.py` that records
into it.  Every setup of a config entry makes a cache of its own, and all of them are saved to one
file, so that what happens to the file is a labelled transition system.
-/

namespace AqaraLanLink
namespace Reference
namespace ObservedPaths

open Library BuildDevice

/-! ## The paths of a cache -/

/-- Sets of paths by model and device. -/
abbrev Paths := Dictionary String (Dictionary String (Finset String))

/-- A path, with the device that has been seen to report it and the model of the device. -/
structure Candidate where
  model : String
  did : String
  path : String
  deriving DecidableEq, Repr

/-- The paths of a device. -/
def pathsOf (data : Paths) (model did : String) : Finset String :=
  ((data.get? model).bind fun byDid => byDid.get? did).getD ∅

/-- The device has the path. -/
def Holds (data : Paths) (candidate : Candidate) : Prop :=
  candidate.path ∈ pathsOf data candidate.model candidate.did

/-- The paths of a cache, one by one. -/
def listed (data : Paths) : List Candidate :=
  data.entries.flatMap fun byModel => byModel.2.entries.flatMap fun byDid =>
    (byDid.2.sort (· ≤ ·)).map fun path => ⟨byModel.1, byDid.1, path⟩

variable {data : Paths} {candidate : Candidate}

theorem holds_iff :
    Holds data candidate ↔ ∃ byDid, data.get? candidate.model = some byDid ∧
      ∃ paths, byDid.get? candidate.did = some paths ∧ candidate.path ∈ paths := by
  rw [Holds, pathsOf]
  cases found : data.get? candidate.model with
  | none => simp
  | some byDid =>
      cases there : byDid.get? candidate.did with
      | none => simp [there]
      | some paths => simp [there]

theorem not_holds_empty : ¬ Holds .empty candidate := by
  simp [Holds, pathsOf, Dictionary.get?, Dictionary.empty]

theorem mem_listed : candidate ∈ listed data ↔ Holds data candidate := by
  rw [holds_iff]
  simp only [listed, List.mem_flatMap, List.mem_map, Finset.mem_sort, Dictionary.get?_eq_some_iff]
  constructor
  · rintro ⟨byModel, outer, byDid, inner, path, member, rfl⟩
    exact ⟨byModel.2, outer, byDid.2, inner, member⟩
  · rintro ⟨byDid, outer, paths, inner, member⟩
    exact ⟨(candidate.model, byDid), outer, (candidate.did, paths), inner, candidate.path, member,
      rfl⟩

/-- No path is held twice. -/
theorem nodup_listed (data : Paths) : (listed data).Nodup := by
  have apart {α : Type} {dictionary : Dictionary String α} :
      dictionary.entries.Pairwise fun left right => left.1 ≠ right.1 :=
    List.pairwise_map.mp dictionary.nodup
  rw [listed, List.nodup_flatMap]
  refine ⟨fun byModel _ => List.nodup_flatMap.mpr ⟨fun byDid _ => ?_, ?_⟩, ?_⟩
  · exact (Finset.sort_nodup byDid.2 _).map fun left right same => congrArg Candidate.path same
  · refine apart.imp fun different candidate left right => different ?_
    obtain ⟨path, -, rfl⟩ := List.mem_map.mp left
    obtain ⟨other, -, same⟩ := List.mem_map.mp right
    exact (congrArg Candidate.did same).symm
  · refine apart.imp fun different candidate left right => different ?_
    obtain ⟨byDid, -, inner⟩ := List.mem_flatMap.mp left
    obtain ⟨otherDid, -, otherInner⟩ := List.mem_flatMap.mp right
    obtain ⟨path, -, rfl⟩ := List.mem_map.mp inner
    obtain ⟨other, -, same⟩ := List.mem_map.mp otherInner
    exact (congrArg Candidate.model same).symm

/-- `new_paths_count`, of the paths since setup. -/
def newPathsCount (new : Paths) : ℕ :=
  (new.values.map fun byDid => (byDid.values.map Finset.card).sum).sum

/-- Each path counts once. -/
theorem newPathsCount_eq_length (new : Paths) : newPathsCount new = (listed new).length := by
  simp only [newPathsCount, listed, Dictionary.values, List.length_flatMap, List.map_map,
    List.length_map, Finset.length_sort]
  rfl

/-! ## Loading, pruning, recording and saving -/

/-- The texts of a JSON array; other items are left out. -/
def textsOf : Json → Option (Finset String)
  | .array items => some (items.filterMap fun item =>
      match item with
      | .string text => some text
      | _ => none).toFinset
  | _ => none

/-- The devices of a model in the file; a list has the shape of version 1 and is discarded. -/
def devicesOf : Json → Option (Dictionary String (Finset String))
  | .object fields => some (.collect textsOf fields)
  | _ => none

/-- `async_load`, of what a read of the file returns or raises. -/
def asyncLoad : Except String (Option Json) → Paths
  | .ok (some (.object fields)) => .collect devicesOf fields
  | _ => .empty

/-- `_snapshot`. -/
def snapshot (data : Paths) : Json :=
  .object (data.entries.map fun byModel =>
    (byModel.1, .object (byModel.2.entries.map fun byDid =>
      (byDid.1, .array ((byDid.2.sort (· ≤ ·)).map .string)))))

/-- `prune_dropped_paths`: the paths that are left.  A model without dropped paths is skipped, and
elsewhere devices and models without paths are deleted. -/
def pruneDroppedPaths (data : Paths) (lookup : String → Finset String) : Paths :=
  data.filterMap fun model byDid =>
    if lookup model = ∅ then some byDid
    else
      let kept := byDid.filterMap fun _ paths =>
        if paths \ lookup model = ∅ then none else some (paths \ lookup model)
      if kept.entries = [] then none else some kept

/-- What `prune_dropped_paths` returns: how many paths it has removed. -/
def removed (data : Paths) (lookup : String → Finset String) : ℕ :=
  (data.entries.map fun byModel =>
    (byModel.2.values.map fun paths => (paths ∩ lookup byModel.1).card).sum).sum

/-- Add a path to the set of its device. -/
def addPath (data : Paths) (candidate : Candidate) : Paths :=
  let byDid := (data.get? candidate.model).getD .empty
  data.set candidate.model
    (byDid.set candidate.did (insert candidate.path ((byDid.get? candidate.did).getD ∅)))

/-- A text as the item of a saved list. -/
theorem textsOf_array (paths : Finset String) :
    textsOf (.array ((paths.sort (· ≤ ·)).map .string)) = some paths := by
  rw [textsOf, List.filterMap_map]
  have kept : ((fun item : Json => match item with
      | .string text => some text
      | _ => none) ∘ Json.string) = some := rfl
  rw [kept, List.filterMap_some, Finset.sort_toFinset]

/-- The sets of a model are loaded as they were saved. -/
theorem get?_collect_textsOf (byDid : Dictionary String (Finset String)) (did : String) :
    (Dictionary.collect textsOf (byDid.entries.map fun entry =>
      (entry.1, .array ((entry.2.sort (· ≤ ·)).map .string)))).get? did = byDid.get? did := by
  let saved := byDid.map fun paths => Json.array ((paths.sort (· ≤ ·)).map .string)
  change (Dictionary.collect textsOf saved.entries).get? did = _
  rw [Dictionary.get?_collect textsOf saved.nodup]
  change (saved.get? did).bind textsOf = _
  rw [Dictionary.get?_map, Option.bind_map]
  cases byDid.get? did with
  | none => rfl
  | some paths => exact textsOf_array paths

/-- What has been saved is loaded again. -/
theorem holds_asyncLoad_snapshot :
    Holds (asyncLoad (.ok (some (snapshot data)))) candidate ↔ Holds data candidate := by
  let saved := data.map fun byDid => Json.object (byDid.entries.map fun entry =>
    (entry.1, .array ((entry.2.sort (· ≤ ·)).map .string)))
  have loaded : (asyncLoad (.ok (some (snapshot data)))).get? candidate.model =
      (saved.get? candidate.model).bind devicesOf :=
    Dictionary.get?_collect devicesOf saved.nodup candidate.model
  rw [Dictionary.get?_map, Option.bind_map] at loaded
  rw [Holds, Holds, pathsOf, pathsOf, loaded]
  cases data.get? candidate.model with
  | none => rfl
  | some byDid =>
      simp only [Option.bind_some, Function.comp_apply, devicesOf, get?_collect_textsOf]

/-- Deleting an empty dictionary loses nothing. -/
theorem exists_nonempty_iff {byDid : Dictionary String (Finset String)} {did path : String} :
    (∃ kept, (if byDid.entries = [] then none else some byDid) = some kept ∧
      ∃ paths, kept.get? did = some paths ∧ path ∈ paths) ↔
      ∃ paths, byDid.get? did = some paths ∧ path ∈ paths := by
  by_cases empty : byDid.entries = []
  · have absent : byDid.get? did = none := by rw [Dictionary.get?, empty]; rfl
    simp [empty, absent]
  · simp [empty]

theorem holds_pruneDroppedPaths {lookup : String → Finset String} :
    Holds (pruneDroppedPaths data lookup) candidate ↔
      Holds data candidate ∧ candidate.path ∉ lookup candidate.model := by
  rw [holds_iff, holds_iff, pruneDroppedPaths, Dictionary.get?_filterMap]
  cases data.get? candidate.model with
  | none => simp
  | some byDid =>
      simp only [Option.bind_some, Option.some.injEq, exists_eq_left']
      split
      · next nothing => simp [nothing]
      · rw [exists_nonempty_iff, Dictionary.get?_filterMap]
        cases byDid.get? candidate.did with
        | none => simp
        | some paths =>
            by_cases all : paths \ lookup candidate.model = ∅
            · have dropped := Finset.sdiff_eq_empty_iff_subset.mp all
              simpa [all] using fun member => dropped member
            · simp only [Option.bind_some, if_neg all, Option.some.injEq, exists_eq_left',
                Finset.mem_sdiff]

theorem holds_addPath {added : Candidate} :
    Holds (addPath data added) candidate ↔ candidate = added ∨ Holds data candidate := by
  obtain ⟨model, did, path⟩ := candidate
  obtain ⟨addedModel, addedDid, addedPath⟩ := added
  simp only [Holds, pathsOf, addPath, Dictionary.get?_set, Candidate.mk.injEq]
  by_cases sameModel : model = addedModel
  · subst sameModel
    rw [if_pos rfl, Option.bind_some, Dictionary.get?_set]
    by_cases sameDid : did = addedDid
    · subst sameDid
      cases data.get? model with
      | none => simp [Dictionary.get?, Dictionary.empty]
      | some byDid => simp
    · cases data.get? model with
      | none => simp [sameDid, Dictionary.get?, Dictionary.empty]
      | some byDid => simp [sameDid]
  · simp [sameModel]

/-! ## Recording -/

instance (data : Paths) (candidate : Candidate) : Decidable (Holds data candidate) :=
  inferInstanceAs (Decidable (candidate.path ∈ pathsOf data candidate.model candidate.did))

/-- `ObservedPathCache`, and the saves that its store has to make. -/
structure Cache where
  /-- `_data`. -/
  data : Paths
  /-- `_new_since_setup`. -/
  new : Paths
  /-- A delayed save has not begun. -/
  due : Bool
  /-- The paths whose snapshot is being written. -/
  saving : Option Paths

/-- `record`. -/
def Cache.record (cache : Cache) (candidate : Candidate) : Cache :=
  if candidate.did = "" ∨ candidate.model = "" ∨ candidate.path = "" ∨
      Holds cache.data candidate then cache
  else
    { cache with
      data := addPath cache.data candidate
      new := addPath cache.new candidate
      due := true }

/-- `_is_numeric_path`. -/
def isNumericPath (key : String) : Bool :=
  decide (3 ≤ (splitDots key).length) && (splitDots key).all isdigit

theorem ne_empty_of_isNumericPath {key : String} (numeric : isNumericPath key = true) :
    key ≠ "" := by
  rintro rfl
  simp [isNumericPath, splitDots] at numeric

/-- A config entry from one setup to the next, with its cache. -/
structure Setup where
  /-- What the shipped catalogue has for each model. -/
  data : String → ModelData
  /-- The overlay as the setup has loaded it. -/
  overlay : String → OverlayTraits
  /-- The paths that the load of the cache returned. -/
  stored : Paths
  cache : Cache
  /-- The config entry has not been unloaded. -/
  loaded : Bool
  /-- The keys that its devices have reported, in order. -/
  reports : List Candidate

/-- `_known_wire_paths` of the devices of a model. -/
def Setup.known (setup : Setup) (model : String) : Except BuildError (Finset String) :=
  knownWirePaths (deviceTraits (setup.data model) (setup.overlay model))
    (setup.data model).droppedPaths

/-- What `handle_report` records of a key; `known` is the gate of the device. -/
def Setup.observe (setup : Setup) (known : Finset String) (seen : Candidate) : Setup :=
  { setup with
    cache :=
      if seen.model ≠ "" ∧ seen.did ≠ "" ∧ isNumericPath seen.path ∧ seen.path ∉ known then
        setup.cache.record seen
      else setup.cache
    reports := setup.reports ++ [seen] }

/-! ## The machine -/

/-- The file, and the config entries by the number of their setup. -/
structure State where
  /-- The storage file; `none` while there is none. -/
  file : Option Json
  /-- The setups since the last start.  A cache outlives its config entry until it is saved. -/
  setups : ℕ → Option Setup
  /-- The number of the next setup. -/
  next : ℕ
  /-- The paths that have been saved, and that the policy of no later setup drops. -/
  saved : Candidate → Prop
  /-- The setups whose load read the file, as long as no other cache has been saved since. -/
  current : ℕ → Prop

/-- What happens. -/
inductive Label where
  /-- A config entry is set up: its cache is loaded, unless the read raises, and pruned. -/
  | setup (raised : Option String) (data : String → ModelData) (overlay : String → OverlayTraits)
  | unload (number : ℕ)
  /-- A device reports a key. -/
  | report (number : ℕ) (model did raw : String)
  /-- Rows are accepted for the overlay, which the next setup loads. -/
  | accept (number : ℕ)
  /-- A delayed save takes its snapshot. -/
  | fire (number : ℕ)
  /-- The snapshot is in the file. -/
  | written (number : ℕ)
  /-- Home Assistant stops, and with it what has not been saved. -/
  | restart

/-- A setup with a property. -/
def State.Has (state : State) (number : ℕ) (holds : Setup → Prop) : Prop :=
  ∃ setup, state.setups number = some setup ∧ holds setup

/-- When a label can occur. -/
def Possible (state : State) : Label → Prop
  | .setup _ _ _ | .restart => True
  | .unload number | .accept number => state.Has number fun setup => setup.loaded = true
  | .report number model _ _ =>
      state.Has number fun setup => setup.loaded = true ∧ Returns (setup.known model)
  | .fire number =>
      -- The store of a cache makes one save at a time.
      state.Has number fun setup => setup.cache.due = true ∧ setup.cache.saving = none
  | .written number => state.Has number fun setup => setup.cache.saving ≠ none

/-- Change a setup. -/
def State.modify (state : State) (number : ℕ) (change : Setup → Setup) : State :=
  { state with
    setups := Function.update state.setups number ((state.setups number).map change) }

/-- What a read of the file returns or raises. -/
def State.read (state : State) : Option String → Except String (Option Json)
  | some error => .error error
  | none => .ok state.file

/-- The cache after `async_load` and `prune_dropped_paths`. -/
def Cache.ofStored (stored : Paths) (dropped : String → Finset String) : Cache where
  data := pruneDroppedPaths stored dropped
  new := .empty
  due := removed stored dropped ≠ 0
  saving := none

/-- What a label does. -/
def perform (state : State) : Label → State
  | .setup raised data overlay =>
      let dropped := fun model => (data model).droppedPaths
      let stored := asyncLoad (state.read raised)
      let setup : Setup :=
        { data, overlay, stored, cache := .ofStored stored dropped, loaded := true, reports := [] }
      { state with
        setups := Function.update state.setups state.next (some setup)
        next := state.next + 1
        saved := fun candidate => state.saved candidate ∧ candidate.path ∉ dropped candidate.model
        current := fun number =>
          if number = state.next then raised = none else state.current number }
  | .unload number => state.modify number fun setup => { setup with loaded := false }
  | .report number model did raw =>
      state.modify number fun setup =>
        match setup.known model with
        | .ok known => setup.observe known ⟨model, did, canonicalizeReportKey raw⟩
        | .error _ => setup
  | .accept _ => state
  | .fire number =>
      state.modify number fun setup =>
        { setup with cache := { setup.cache with due := false, saving := setup.cache.data } }
  | .written number =>
      match (state.setups number).bind fun setup => setup.cache.saving with
      | none => state
      | some paths =>
          { state.modify number fun setup =>
              { setup with cache := { setup.cache with saving := none } } with
            file := snapshot paths
            saved := fun candidate => state.saved candidate ∨ Holds paths candidate
            current := fun other => state.current other ∧ other = number }
  | .restart => { state with setups := fun _ => none }

/-- Nothing is set up; the file may have any content. -/
structure Begins (state : State) : Prop where
  setups : ∀ number, state.setups number = none
  saved : ∀ candidate, ¬ state.saved candidate

/-- The labelled transition system. -/
def machine : Machine State Label where
  initial := Begins
  step state label next := Possible state label ∧ next = perform state label

/-- The file that is written is the one of a cache whose load read the file, and no other cache has
been saved since. -/
def Current (state : State) : Label → Prop
  | .written number => state.current number
  | _ => True

/-! ## What a cache holds and counts -/

/-- The catalogue of a model, its overlay or its policy has the path. -/
def Covered (data : ModelData) (overlay : OverlayTraits) (path : String) : Prop :=
  path ∈ data.droppedPaths ∨ (∃ spec ∈ data.traits.values, given spec.wirePath = some path) ∨
    ∃ spec, some spec ∈ overlay.values ∧ given spec.wirePath = some path

/-- The overlay has a trait with this wire path in the place of a trait of the catalogue. -/
def Shadowed (data : ModelData) (overlay : OverlayTraits) (path : String) : Prop :=
  ∃ key spec, overlay.toDictionary.get? key = some (some spec) ∧
    given spec.wirePath = some path ∧ data.traits.get? key ≠ none

/-- What is known is covered. -/
theorem covered_of_mem_known {data : ModelData} {overlay : OverlayTraits} {known : Finset String}
    {path : String}
    (gated : knownWirePaths (deviceTraits data overlay) data.droppedPaths = .ok known)
    (member : path ∈ known) : Covered data overlay path := by
  rcases (mem_knownWirePaths gated).mp member with subscribed | dropped
  · obtain ⟨spec, there, wire⟩ := mem_subscribedPaths.mp subscribed
    obtain ⟨key, found⟩ := Dictionary.mem_values_iff.mp there
    rw [get?_deviceTraits, Option.or_eq_some_iff] at found
    rcases found with shippedSpec | ⟨-, added⟩
    · obtain ⟨held, shipped, same⟩ := Option.map_eq_some_iff.mp shippedSpec
      obtain rfl := Option.some.inj same
      exact .inr (.inl ⟨held, Dictionary.mem_values_iff.mpr ⟨key, shipped⟩, wire⟩)
    · exact .inr (.inr ⟨spec, Dictionary.mem_values_iff.mpr ⟨key, added⟩, wire⟩)
  · exact .inl dropped

/-- What is covered is known, unless the catalogue's trait stands before the overlay's. -/
theorem mem_known_of_covered {data : ModelData} {overlay : OverlayTraits} {known : Finset String}
    {path : String}
    (gated : knownWirePaths (deviceTraits data overlay) data.droppedPaths = .ok known)
    (covered : Covered data overlay path) : path ∈ known ∨ Shadowed data overlay path := by
  have subscribed (key : String) (spec : TraitSpec) (wire : given spec.wirePath = some path)
      (found : (deviceTraits data overlay).get? key = some (some spec)) : path ∈ known :=
    (mem_knownWirePaths gated).mpr (.inl (mem_subscribedPaths.mpr
      ⟨spec, Dictionary.mem_values_iff.mpr ⟨key, found⟩, wire⟩))
  rcases covered with dropped | ⟨spec, member, wire⟩ | ⟨spec, member, wire⟩
  · exact .inl ((mem_knownWirePaths gated).mpr (.inr dropped))
  · obtain ⟨key, shipped⟩ := Dictionary.mem_values_iff.mp member
    refine .inl (subscribed key spec wire ?_)
    rw [get?_deviceTraits, shipped]
    rfl
  · obtain ⟨key, added⟩ := Dictionary.mem_values_iff.mp member
    cases shipped : data.traits.get? key with
    | none =>
        refine .inl (subscribed key spec wire ?_)
        rw [get?_deviceTraits, shipped, added]
        rfl
    | some held => exact .inr ⟨key, spec, added, wire, by simp [shipped]⟩

/-- What a setup shows of its cache. -/
structure Kept (setup : Setup) : Prop where
  /-- No path is cached that the policy drops. -/
  pruned : ∀ candidate, Holds setup.cache.data candidate →
    candidate.path ∉ (setup.data candidate.model).droppedPaths
  /-- A path that is cached although it is covered was in the file, or the overlay has it in the
  place of a trait of the catalogue. -/
  stale : ∀ candidate, Holds setup.cache.data candidate →
    Covered (setup.data candidate.model) (setup.overlay candidate.model) candidate.path →
    Holds setup.stored candidate ∨
      Shadowed (setup.data candidate.model) (setup.overlay candidate.model) candidate.path
  /-- A numeric path that is reported and not covered is held once, and counted once unless it was
  in the file. -/
  reported : ∀ candidate ∈ setup.reports, candidate.model ≠ "" → candidate.did ≠ "" →
    isNumericPath candidate.path →
    ¬ Covered (setup.data candidate.model) (setup.overlay candidate.model) candidate.path →
    (listed setup.cache.data).count candidate = 1 ∧
      (listed setup.cache.new).count candidate = if Holds setup.stored candidate then 0 else 1
  /-- Every path that is counted has been reported. -/
  counted : ∀ candidate ∈ listed setup.cache.new, candidate ∈ setup.reports
  /-- `new_paths_count` counts each of them. -/
  count : newPathsCount setup.cache.new = (listed setup.cache.new).length

/-- The path has been reported, and has passed the gate. -/
structure Recorded (setup : Setup) (candidate : Candidate) : Prop where
  reported : candidate ∈ setup.reports
  model : candidate.model ≠ ""
  did : candidate.did ≠ ""
  numeric : isNumericPath candidate.path = true
  unknown : ∃ known, setup.known candidate.model = .ok known ∧ candidate.path ∉ known

/-- The path was cached at the end of the setup. -/
def Setup.Began (setup : Setup) (candidate : Candidate) : Prop :=
  Holds setup.stored candidate ∧ candidate.path ∉ (setup.data candidate.model).droppedPaths

/-- A cache holds what it began with and what has been recorded, and counts what was new. -/
structure Tracks (setup : Setup) : Prop where
  data_iff : ∀ candidate, Holds setup.cache.data candidate ↔
    setup.Began candidate ∨ Recorded setup candidate
  new_iff : ∀ candidate, Holds setup.cache.new candidate ↔
    Recorded setup candidate ∧ ¬ setup.Began candidate
  /-- A device has reported only if its gate could be made. -/
  gated : ∀ candidate ∈ setup.reports, Returns (setup.known candidate.model)

variable {setup : Setup}

/-- What the policy drops is known. -/
theorem Recorded.not_dropped (recorded : Recorded setup candidate) :
    candidate.path ∉ (setup.data candidate.model).droppedPaths := by
  obtain ⟨known, gated, unknown⟩ := recorded.unknown
  exact fun dropped => unknown ((mem_knownWirePaths gated).mpr (.inr dropped))

theorem Tracks.kept (tracks : Tracks setup) : Kept setup where
  pruned candidate held := by
    rcases (tracks.data_iff candidate).mp held with began | recorded
    · exact began.2
    · exact recorded.not_dropped
  stale candidate held covered := by
    rcases (tracks.data_iff candidate).mp held with began | recorded
    · exact .inl began.1
    · obtain ⟨known, gated, unknown⟩ := recorded.unknown
      exact .inr ((mem_known_of_covered gated covered).resolve_left unknown)
  reported candidate reported model did numeric uncovered := by
    obtain ⟨known, gated⟩ := tracks.gated candidate reported
    have recorded : Recorded setup candidate :=
      ⟨reported, model, did, numeric, known, gated, fun member =>
        uncovered (covered_of_mem_known gated member)⟩
    refine ⟨List.count_eq_one_of_mem (nodup_listed _)
      (mem_listed.mpr ((tracks.data_iff candidate).mpr (.inr recorded))), ?_⟩
    split
    · next stored =>
      refine List.count_eq_zero_of_not_mem fun counted => ?_
      exact ((tracks.new_iff candidate).mp (mem_listed.mp counted)).2
        ⟨stored, recorded.not_dropped⟩
    · next fresh =>
      exact List.count_eq_one_of_mem (nodup_listed _)
        (mem_listed.mpr ((tracks.new_iff candidate).mpr ⟨recorded, fun began => fresh began.1⟩))
  counted candidate counted :=
    ((tracks.new_iff candidate).mp (mem_listed.mp counted)).1.reported
  count := newPathsCount_eq_length setup.cache.new

/-! ## Every run -/

theorem Cache.holds_record {cache : Cache} {seen : Candidate} (did : seen.did ≠ "")
    (model : seen.model ≠ "") (path : seen.path ≠ "") :
    (Holds (cache.record seen).data candidate ↔ candidate = seen ∨ Holds cache.data candidate) ∧
      (Holds (cache.record seen).new candidate ↔
        (candidate = seen ∧ ¬ Holds cache.data seen) ∨ Holds cache.new candidate) := by
  by_cases held : Holds cache.data seen
  · rw [record, if_pos (.inr (.inr (.inr held)))]
    refine ⟨⟨.inr, ?_⟩, by simp [held]⟩
    rintro (rfl | there)
    · exact held
    · exact there
  · rw [record, if_neg (by simp [did, model, path, held])]
    exact ⟨holds_addPath, by simp [holds_addPath, held]⟩

/-- A setup has cached what it has loaded and not pruned. -/
theorem tracks_ofStored (data : String → ModelData) (overlay : String → OverlayTraits)
    (stored : Paths) :
    Tracks
      { data, overlay, stored, cache := .ofStored stored fun model => (data model).droppedPaths,
        loaded := true, reports := [] } where
  data_iff candidate := by
    refine holds_pruneDroppedPaths.trans (or_iff_left fun recorded => ?_).symm
    exact absurd recorded.reported List.not_mem_nil
  new_iff candidate := by
    refine iff_of_false not_holds_empty fun recorded => ?_
    exact absurd recorded.1.reported List.not_mem_nil
  gated candidate member := absurd member List.not_mem_nil

/-- What is recorded once a key has been reported. -/
theorem recorded_observe_iff {known : Finset String} {seen : Candidate}
    (gated : setup.known seen.model = .ok known) :
    Recorded (setup.observe known seen) candidate ↔ Recorded setup candidate ∨
      (candidate = seen ∧ seen.model ≠ "" ∧ seen.did ≠ "" ∧ isNumericPath seen.path = true ∧
        seen.path ∉ known) := by
  constructor
  · rintro ⟨reported, model, did, numeric, gate, same, unknown⟩
    rcases List.mem_append.mp reported with earlier | last
    · exact .inl ⟨earlier, model, did, numeric, gate, same, unknown⟩
    · obtain rfl := List.mem_singleton.mp last
      obtain rfl : gate = known := Except.ok.inj (same.symm.trans gated)
      exact .inr ⟨rfl, model, did, numeric, unknown⟩
  · rintro (earlier | ⟨rfl, model, did, numeric, unknown⟩)
    · exact { earlier with reported := List.mem_append_left _ earlier.reported }
    · exact ⟨List.mem_append_right _ (List.mem_singleton_self _), model, did, numeric, known, gated,
        unknown⟩

theorem Tracks.observe (tracks : Tracks setup) {known : Finset String} {seen : Candidate}
    (gated : setup.known seen.model = .ok known) : Tracks (setup.observe known seen) := by
  have returns : ∀ candidate ∈ (setup.observe known seen).reports,
      Returns (setup.known candidate.model) := by
    intro candidate member
    rcases List.mem_append.mp member with earlier | last
    · exact tracks.gated candidate earlier
    · obtain rfl := List.mem_singleton.mp last
      exact ⟨known, gated⟩
  by_cases passes : seen.model ≠ "" ∧ seen.did ≠ "" ∧ isNumericPath seen.path ∧ seen.path ∉ known
  · have cached : (setup.observe known seen).cache = setup.cache.record seen := if_pos passes
    have recorded (candidate : Candidate) :
        Recorded (setup.observe known seen) candidate ↔
          Recorded setup candidate ∨ candidate = seen :=
      (recorded_observe_iff gated).trans (or_congr_right (and_iff_left passes))
    have held (candidate : Candidate) :
        (Holds (setup.cache.record seen).data candidate ↔
            candidate = seen ∨ Holds setup.cache.data candidate) ∧
          (Holds (setup.cache.record seen).new candidate ↔
            (candidate = seen ∧ ¬ Holds setup.cache.data seen) ∨ Holds setup.cache.new candidate) :=
      Cache.holds_record passes.2.1 passes.1 (ne_empty_of_isNumericPath passes.2.2.1)
    refine ⟨fun candidate => ?_, fun candidate => ?_, returns⟩
    · rw [cached, (held candidate).1, tracks.data_iff, recorded]
      change _ ↔ setup.Began candidate ∨ _
      tauto
    · rw [cached, (held candidate).2, tracks.data_iff, tracks.new_iff, recorded]
      change _ ↔ _ ∧ ¬ setup.Began candidate
      by_cases same : candidate = seen
      · subst same
        tauto
      · tauto
  · have cached : (setup.observe known seen).cache = setup.cache := if_neg passes
    have recorded (candidate : Candidate) :
        Recorded (setup.observe known seen) candidate ↔ Recorded setup candidate :=
      (recorded_observe_iff gated).trans (or_iff_left fun new => passes new.2)
    refine ⟨fun candidate => ?_, fun candidate => ?_, returns⟩
    · rw [cached, tracks.data_iff, recorded]
      rfl
    · rw [cached, tracks.new_iff, recorded]
      rfl

/-- A setup after another one has been changed is as it was, or the changed one. -/
theorem State.setups_modify {state : State} {number other : ℕ} {change : Setup → Setup}
    {after : Setup} (there : (state.modify number change).setups other = some after) :
    (other ≠ number ∧ state.setups other = some after) ∨
      (other = number ∧ ∃ before, state.setups number = some before ∧ change before = after) := by
  simp only [State.modify, Function.update_apply] at there
  split at there
  · next same => exact .inr ⟨same, Option.map_eq_some_iff.mp there⟩
  · next differs => exact .inl ⟨differs, there⟩

/-- Every setup has a property. -/
def Always (holds : Setup → Prop) (state : State) : Prop :=
  ∀ number setup, state.setups number = some setup → holds setup

theorem Always.modify {state : State} {holds : Setup → Prop} (always : Always holds state)
    {number : ℕ} {change : Setup → Setup} (kept : ∀ setup, holds setup → holds (change setup)) :
    Always holds (state.modify number change) := by
  intro other after there
  rcases State.setups_modify there with ⟨-, same⟩ | ⟨-, before, had, rfl⟩
  · exact always other after same
  · exact kept before (always number before had)

/-- Only a report touches what a setup tracks. -/
theorem Tracks.frame (tracks : Tracks setup) {due loaded : Bool} {saving : Option Paths} :
    Tracks { setup with
      cache := { setup.cache with due, saving }
      loaded } where
  data_iff candidate := (tracks.data_iff candidate).trans
    (or_congr_right ⟨fun recorded => ⟨recorded.1, recorded.2, recorded.3, recorded.4, recorded.5⟩,
      fun recorded => ⟨recorded.1, recorded.2, recorded.3, recorded.4, recorded.5⟩⟩)
  new_iff candidate := (tracks.new_iff candidate).trans
    (and_congr_left' ⟨fun recorded => ⟨recorded.1, recorded.2, recorded.3, recorded.4, recorded.5⟩,
      fun recorded => ⟨recorded.1, recorded.2, recorded.3, recorded.4, recorded.5⟩⟩)
  gated := tracks.gated

theorem always_perform {state : State} (always : Always Tracks state) (label : Label) :
    Always Tracks (perform state label) := by
  cases label with
  | setup raised data overlay =>
      intro number setup there
      simp only [perform, Function.update_apply] at there
      split at there
      · exact Option.some.inj there ▸ tracks_ofStored data overlay _
      · exact always number setup there
  | unload number => exact always.modify fun setup tracks => tracks.frame
  | report number model did raw =>
      refine always.modify fun setup tracks => ?_
      split
      · next known gated => exact tracks.observe gated
      · exact tracks
  | accept number => exact always
  | fire number => exact always.modify fun setup tracks => tracks.frame
  | written number =>
      simp only [perform]
      split
      · exact always
      · exact always.modify fun setup tracks => tracks.frame
  | restart => exact fun number setup there => by cases there

/-- In every run a cache holds what it began with and what has been recorded. -/
theorem run_tracks {good : State → Label → Prop} {labels : List Label} {state : State}
    (run : machine.Run good labels state) : Always Tracks state := by
  refine run.invariant ?_ ?_
  · intro start begins number setup there
    rw [begins.setups] at there
    cases there
  · intro before label next always good step
    obtain ⟨possible, rfl⟩ := step
    exact always_perform always label

/-! ## Runs that save current caches -/

/-- What is being written of a cache is in it. -/
def WritesOwn (setup : Setup) : Prop :=
  ∀ paths, setup.cache.saving = some paths → ∀ candidate, Holds paths candidate →
    Holds setup.cache.data candidate

/-- What has been saved is in the file, and in each cache that may be saved. -/
structure Safe (state : State) : Prop where
  stored : ∀ candidate, state.saved candidate → Holds (asyncLoad (.ok state.file)) candidate
  own : Always WritesOwn state
  held : ∀ number setup candidate, state.current number → state.setups number = some setup →
    state.saved candidate → Holds setup.cache.data candidate
  writes : ∀ number setup paths candidate, state.current number →
    state.setups number = some setup → setup.cache.saving = some paths →
    state.saved candidate → Holds paths candidate

/-- A change that drops no path, and writes nothing but what was cached. -/
structure Grows (before after : Setup) : Prop where
  data : ∀ candidate, Holds before.cache.data candidate → Holds after.cache.data candidate
  saving : ∀ paths, after.cache.saving = some paths →
    before.cache.saving = some paths ∨ paths = before.cache.data

theorem Safe.modify {state : State} (safe : Safe state) {number : ℕ} {change : Setup → Setup}
    (grows : ∀ setup, Grows setup (change setup)) : Safe (state.modify number change) where
  stored := safe.stored
  own := safe.own.modify fun setup own paths saving candidate member => by
    refine (grows setup).data candidate ?_
    rcases (grows setup).saving paths saving with earlier | rfl
    · exact own paths earlier candidate member
    · exact member
  held other after candidate current there saved := by
    rcases State.setups_modify there with ⟨-, same⟩ | ⟨rfl, before, had, rfl⟩
    · exact safe.held other after candidate current same saved
    · exact (grows before).data candidate (safe.held other before candidate current had saved)
  writes other after paths candidate current there saving saved := by
    rcases State.setups_modify there with ⟨-, same⟩ | ⟨rfl, before, had, rfl⟩
    · exact safe.writes other after paths candidate current same saving saved
    · rcases (grows before).saving paths saving with earlier | rfl
      · exact safe.writes other before paths candidate current had earlier saved
      · exact safe.held other before candidate current had saved

theorem Cache.record_saving (cache : Cache) (seen : Candidate) :
    (cache.record seen).saving = cache.saving := by
  rw [record]
  split
  · rfl
  · rfl

theorem Cache.holds_of_record (cache : Cache) (seen : Candidate)
    (held : Holds cache.data candidate) : Holds (cache.record seen).data candidate := by
  rw [record]
  split
  · exact held
  · exact holds_addPath.mpr (.inr held)

theorem grows_observe (setup : Setup) (known : Finset String) (seen : Candidate) :
    Grows setup (setup.observe known seen) := by
  by_cases passes : seen.model ≠ "" ∧ seen.did ≠ "" ∧ isNumericPath seen.path ∧ seen.path ∉ known
  · have cached : (setup.observe known seen).cache = setup.cache.record seen := if_pos passes
    refine ⟨fun candidate held => ?_, fun paths saving => .inl ?_⟩
    · rw [cached]
      exact setup.cache.holds_of_record seen held
    · rwa [cached, Cache.record_saving] at saving
  · have cached : (setup.observe known seen).cache = setup.cache := if_neg passes
    refine ⟨fun candidate held => ?_, fun paths saving => .inl ?_⟩
    · rwa [cached]
    · rwa [cached] at saving

/-- A new cache that has read the file holds all that was saved and is not dropped. -/
theorem Safe.startup {state : State} (safe : Safe state) (raised : Option String)
    (data : String → ModelData) (overlay : String → OverlayTraits) :
    Safe (perform state (.setup raised data overlay)) where
  stored candidate saved := safe.stored candidate saved.1
  own number after there := by
    simp only [perform, Function.update_apply] at there
    split at there
    · obtain rfl := Option.some.inj there
      exact fun paths saving => by cases saving
    · exact safe.own number after there
  held number after candidate current there saved := by
    simp only [perform, Function.update_apply] at there current
    split at there
    · next same =>
      rw [if_pos same] at current
      obtain rfl := Option.some.inj there
      subst current
      exact holds_pruneDroppedPaths.mpr ⟨safe.stored candidate saved.1, saved.2⟩
    · next differs =>
      rw [if_neg differs] at current
      exact safe.held number after candidate current there saved.1
  writes number after paths candidate current there saving saved := by
    simp only [perform, Function.update_apply] at there current
    split at there
    · obtain rfl := Option.some.inj there
      cases saving
    · next differs =>
      rw [if_neg differs] at current
      exact safe.writes number after paths candidate current there saving saved.1

/-- The file of a current cache has what the file before had. -/
theorem Safe.written {state : State} (safe : Safe state) {number : ℕ}
    (current : state.current number) : Safe (perform state (.written number)) := by
  simp only [perform]
  split
  · exact safe
  · next paths saving =>
    obtain ⟨before, had, saves⟩ := Option.bind_eq_some_iff.mp saving
    have keeps : ∀ candidate, state.saved candidate ∨ Holds paths candidate →
        Holds paths candidate := by
      rintro candidate (saved | there)
      · exact safe.writes number before paths candidate current had saves saved
      · exact there
    refine ⟨fun candidate saved => ?_, ?_, ?_, ?_⟩
    · exact holds_asyncLoad_snapshot.mpr (keeps candidate saved)
    · exact safe.own.modify fun setup own paths' saving' => by cases saving'
    · rintro other after candidate ⟨-, rfl⟩ there saved
      rcases State.setups_modify there with ⟨differs, -⟩ | ⟨-, held, found, rfl⟩
      · exact absurd rfl differs
      · obtain rfl := Option.some.inj (found.symm.trans had)
        exact safe.own other held had paths saves candidate (keeps candidate saved)
    · rintro other after paths' candidate ⟨-, rfl⟩ there saving' saved
      rcases State.setups_modify there with ⟨differs, -⟩ | ⟨-, held, found, rfl⟩
      · exact absurd rfl differs
      · cases saving'

theorem safe_perform {state : State} (safe : Safe state) {label : Label}
    (current : Current state label) : Safe (perform state label) := by
  cases label with
  | setup raised data overlay => exact safe.startup raised data overlay
  | unload number =>
      exact safe.modify fun setup => ⟨fun candidate held => held, fun paths saving => .inl saving⟩
  | report number model did raw =>
      refine safe.modify fun setup => ?_
      split
      · exact grows_observe setup _ _
      · exact ⟨fun candidate held => held, fun paths saving => .inl saving⟩
  | accept number => exact safe
  | fire number =>
      exact safe.modify fun setup =>
        ⟨fun candidate held => held, fun paths saving => .inr (Option.some.inj saving).symm⟩
  | written number => exact safe.written current
  | restart =>
      exact
        { stored := safe.stored
          own := fun number setup there => by cases there
          held := fun number setup candidate current there => by cases there
          writes := fun number setup paths candidate current there => by cases there }

/-- A run that only saves current caches loses nothing that was saved. -/
theorem run_safe {labels : List Label} {state : State} (run : machine.Run Current labels state) :
    Safe state := by
  refine run.invariant ?_ ?_
  · intro start begins
    have nothing (number : ℕ) (setup : Setup) : start.setups number ≠ some setup := by
      rw [begins.setups]
      exact (Option.some_ne_none setup).symm
    exact
      { stored := fun candidate saved => absurd saved (begins.saved candidate)
        own := fun number setup there => absurd there (nothing number setup)
        held := fun number setup candidate current there => absurd there (nothing number setup)
        writes := fun number setup paths candidate current there =>
          absurd there (nothing number setup) }
  · intro before label next safe current step
    obtain ⟨possible, rfl⟩ := step
    exact safe_perform safe current

/-- In every run the caches are kept as they should be, but for covered paths that were in the file;
and in every run that only saves current caches, what has been saved is there in every load, unless
the policy of a later setup drops it. -/
theorem run_keeps_candidates (labels : List Label) (state : State) :
    (machine.Run (fun _ _ => True) labels state → Always Kept state) ∧
      (machine.Run Current labels state → ∀ candidate, state.saved candidate →
        Holds (asyncLoad (.ok state.file)) candidate) := by
  constructor
  · intro run number setup there
    exact (run_tracks run number setup there).kept
  · exact fun run => (run_safe run).stored

/-- A model of which nothing is shipped. -/
def unshipped : ModelData where
  traits := .empty
  numbered := fun _ member => absurd member List.not_mem_nil
  endpoints := .empty
  settings := ⟨.empty, SettingMap.dotted_empty⟩
  droppedPaths := ∅

/-- An overlay without traits. -/
def noOverlay : OverlayTraits where
  toDictionary := .empty
  numbered := fun _ member => absurd member List.not_mem_nil

/-- There is no file, and nothing is set up. -/
def blank : State where
  file := none
  setups := fun _ => none
  next := 0
  saved := fun _ => False
  current := fun _ => False

theorem blank_begins : Begins blank := ⟨fun _ => rfl, fun _ saved => saved⟩

/-- A config entry is set up. -/
def startup : Label := .setup none (fun _ => unshipped) fun _ => noOverlay

/-- A path that no catalogue has. -/
def novel : Candidate := ⟨"lumi.vibration.agl002", "lumi1.a", "2.164.20536"⟩

/-- A device reports it. -/
def report (number : ℕ) : Label := .report number novel.model novel.did "2.164.20536.1"

theorem known_unshipped : knownWirePaths (deviceTraits unshipped noOverlay) ∅ = .ok ∅ := rfl

theorem novel_numeric : isNumericPath novel.path = true := by decide

theorem novel_uncovered : ¬ Covered unshipped noOverlay novel.path := by
  rintro (dropped | ⟨spec, member, -⟩ | ⟨spec, member, -⟩)
  · exact absurd dropped (Finset.notMem_empty _)
  · exact absurd member List.not_mem_nil
  · exact absurd member List.not_mem_nil

/-- A path of another device. -/
def second : Candidate := ⟨"lumi.vibration.agl002", "lumi1.b", "2.165.20537"⟩

/-- Two config entries are set up at the same time and save to the one file, each its own path. -/
def sharedFile : List Label :=
  [startup, report 0, .fire 0, .written 0, startup,
    .report 1 second.model second.did "2.165.20537.1", report 0, .unload 0, .fire 1, .written 1]

theorem run_sharedFile {good : State → Label → Prop}
    (weaker : ∀ state label, Current state label → good state label) :
    machine.Run good sharedFile (sharedFile.foldl perform blank) := by
  have start : machine.Run good [] blank := .start blank_begins
  have loaded := start.extend startup (weaker _ _ trivial) ⟨trivial, rfl⟩
  have seen := loaded.extend (report 0) (weaker _ _ trivial)
    ⟨⟨_, rfl, rfl, ∅, known_unshipped⟩, rfl⟩
  have fired := seen.extend (.fire 0) (weaker _ _ trivial) ⟨⟨_, rfl, rfl, rfl⟩, rfl⟩
  have written := fired.extend (.written 0) (weaker _ _ rfl)
    ⟨⟨_, rfl, Option.some_ne_none _⟩, rfl⟩
  have other := written.extend startup (weaker _ _ trivial) ⟨trivial, rfl⟩
  have otherSeen := other.extend (.report 1 second.model second.did "2.165.20537.1")
    (weaker _ _ trivial) ⟨⟨_, rfl, rfl, ∅, known_unshipped⟩, rfl⟩
  have seenAgain := otherSeen.extend (report 0) (weaker _ _ trivial)
    ⟨⟨_, rfl, rfl, ∅, known_unshipped⟩, rfl⟩
  have unloaded := seenAgain.extend (.unload 0) (weaker _ _ trivial) ⟨⟨_, rfl, rfl⟩, rfl⟩
  have otherFired := unloaded.extend (.fire 1) (weaker _ _ trivial) ⟨⟨_, rfl, rfl, rfl⟩, rfl⟩
  exact otherFired.extend (.written 1) (weaker _ _ rfl) ⟨⟨_, rfl, Option.some_ne_none _⟩, rfl⟩

/-- Both paths have been saved. -/
theorem saved_sharedFile : (sharedFile.foldl perform blank).saved novel ∧
    (sharedFile.foldl perform blank).saved second := by
  refine ⟨.inl ⟨.inr (holds_addPath.mpr (.inl rfl)), Finset.notMem_empty _⟩, .inr ?_⟩
  exact holds_addPath.mpr (.inl rfl)

/-- What two entries have saved is in the file after both. -/
theorem kept_sharedFile :
    Always Kept (sharedFile.foldl perform blank) ∧
      Holds (asyncLoad (.ok (sharedFile.foldl perform blank).file)) novel ∧
        Holds (asyncLoad (.ok (sharedFile.foldl perform blank).file)) second :=
  ⟨(run_keeps_candidates _ _).1 (run_sharedFile fun _ _ _ => trivial),
    (run_keeps_candidates _ _).2 (run_sharedFile fun _ _ current => current) novel
      saved_sharedFile.1,
    (run_keeps_candidates _ _).2 (run_sharedFile fun _ _ current => current) second
      saved_sharedFile.2⟩

/-- The path is recorded and saved, and reported again after a restart. -/
def reportedTwice : List Label :=
  [startup, report 0, .fire 0, .written 0, .restart, startup, report 1]

theorem run_reportedTwice {good : State → Label → Prop}
    (weaker : ∀ state label, Current state label → good state label) :
    machine.Run good reportedTwice (reportedTwice.foldl perform blank) := by
  have start : machine.Run good [] blank := .start blank_begins
  have loaded := start.extend startup (weaker _ _ trivial) ⟨trivial, rfl⟩
  have seen := loaded.extend (report 0) (weaker _ _ trivial)
    ⟨⟨_, rfl, rfl, ∅, known_unshipped⟩, rfl⟩
  have fired := seen.extend (.fire 0) (weaker _ _ trivial) ⟨⟨_, rfl, rfl, rfl⟩, rfl⟩
  have written := fired.extend (.written 0) (weaker _ _ rfl)
    ⟨⟨_, rfl, Option.some_ne_none _⟩, rfl⟩
  have stopped := written.extend .restart (weaker _ _ trivial) ⟨trivial, rfl⟩
  have again := stopped.extend startup (weaker _ _ trivial) ⟨trivial, rfl⟩
  exact again.extend (report 1) (weaker _ _ trivial) ⟨⟨_, rfl, rfl, ∅, known_unshipped⟩, rfl⟩

/-- The second setup of the run has loaded the path. -/
theorem reportedTwice_setup : ∃ setup, (reportedTwice.foldl perform blank).setups 1 = some setup ∧
    setup.reports = [novel] ∧ Holds setup.stored novel ∧ setup.data = (fun _ => unshipped) ∧
      setup.overlay = fun _ => noOverlay := by
  refine ⟨_, rfl, rfl, ?_, rfl, rfl⟩
  have saved : Holds (asyncLoad (.ok (some (snapshot (addPath .empty novel))))) novel :=
    holds_asyncLoad_snapshot.mpr (holds_addPath.mpr (.inl rfl))
  exact saved

/-- A path that was in the file is not counted when it is reported again. -/
theorem stored_path_not_counted : ∃ state setup,
    machine.Run (fun _ _ => True) reportedTwice state ∧ state.setups 1 = some setup ∧
      novel ∈ setup.reports ∧ isNumericPath novel.path = true ∧
      ¬ Covered (setup.data novel.model) (setup.overlay novel.model) novel.path ∧
      (listed setup.cache.new).count novel = 0 ∧ newPathsCount setup.cache.new = 0 := by
  have run : machine.Run (fun _ _ => True) reportedTwice (reportedTwice.foldl perform blank) :=
    run_reportedTwice fun _ _ _ => trivial
  obtain ⟨setup, there, reports, stored, data, overlay⟩ := reportedTwice_setup
  have kept := (run_tracks run 1 setup there).kept
  have uncovered :
      ¬ Covered (setup.data novel.model) (setup.overlay novel.model) novel.path := by
    rw [data, overlay]
    exact novel_uncovered
  have reported : novel ∈ setup.reports := reports ▸ List.mem_singleton_self novel
  have silent : (listed setup.cache.new).count novel = 0 := by
    have counts := (kept.reported novel reported (by decide) (by decide) novel_numeric uncovered).2
    rwa [if_pos stored] at counts
  have nothing : listed setup.cache.new = [] := by
    refine List.eq_nil_iff_forall_not_mem.mpr fun candidate counted => ?_
    have same := kept.counted candidate counted
    rw [reports, List.mem_singleton] at same
    exact List.count_eq_zero.mp silent (same ▸ counted)
  refine ⟨_, setup, run, there, reported, novel_numeric, uncovered, silent, ?_⟩
  rw [kept.count, nothing]
  rfl

end ObservedPaths
end Reference
end AqaraLanLink
