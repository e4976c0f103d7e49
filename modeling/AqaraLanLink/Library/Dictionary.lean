import Mathlib.Data.List.Nodup

/-!
# Dictionaries in insertion order

A dictionary whose entries stand in the order in which their keys came in.  Setting a key that is
there keeps its place.
-/

namespace Library

universe u v w

/-- A table of the keys that have a value gives each of its keys that value. -/
theorem lookup_filterMap {κ : Type u} {α : Type v} [DecidableEq κ] (value : κ → Option α)
    {keys : List κ} {key : κ} (member : key ∈ keys) :
    (keys.filterMap fun key => (value key).map fun found => (key, found)).lookup key =
      value key := by
  have table : ∀ keys : List κ,
      (keys.filterMap fun key => (value key).map fun found => (key, found)).lookup key =
        if key ∈ keys then value key else none := by
    intro keys
    induction keys with
    | nil => rfl
    | cons head keys induction =>
        cases found : value head with
        | none =>
            have skipped : key = head → value key = none := fun same => same ▸ found
            simp only [List.filterMap_cons, found, Option.map_none, induction]
            grind
        | some value =>
            simp only [List.filterMap_cons, found, Option.map_some, List.lookup_cons, induction]
            grind
  rw [table, if_pos member]

/-- A value that is found stands in the table. -/
theorem mem_of_lookup {κ : Type u} {α : Type v} [DecidableEq κ] {entries : List (κ × α)} {key : κ}
    {value : α} (found : entries.lookup key = some value) : (key, value) ∈ entries := by
  obtain ⟨before, after, rfl, -⟩ := List.lookup_eq_some_iff.mp found
  exact List.mem_append_right _ List.mem_cons_self

/-- A key that no entry has is not found. -/
theorem lookup_of_not_mem {κ : Type u} {α : Type v} [DecidableEq κ] {entries : List (κ × α)}
    {key : κ} (absent : key ∉ entries.map Prod.fst) : entries.lookup key = none := by
  rw [List.lookup_eq_none_iff]
  intro entry member
  rw [bne_iff_ne]
  rintro rfl
  exact absent (List.mem_map_of_mem member)

/-- Filtering a table with distinct keys filters what is found in it. -/
theorem lookup_filter {κ : Type u} {α : Type v} [DecidableEq κ] {entries : List (κ × α)}
    (nodup : (entries.map Prod.fst).Nodup) (keep : κ × α → Bool) (key : κ) :
    (entries.filter keep).lookup key = (entries.lookup key).filter fun value => keep (key, value) := by
  induction entries with
  | nil => rfl
  | cons entry entries induction =>
      obtain ⟨name, value⟩ := entry
      obtain ⟨fresh, others⟩ := List.nodup_cons.mp nodup
      rw [List.lookup_cons]
      cases same : key == name with
      | true =>
          cases beq_iff_eq.mp same
          cases kept : keep (key, value) with
          | true => simp [List.filter_cons_of_pos kept, Option.filter, kept]
          | false =>
              rw [List.filter_cons_of_neg (by simp [kept]), induction others,
                lookup_of_not_mem fresh]
              simp [Option.filter, kept]
      | false =>
          cases kept : keep (name, value) with
          | true =>
              rw [List.filter_cons_of_pos kept, List.lookup_cons, same]
              exact induction others
          | false =>
              rw [List.filter_cons_of_neg (by simp [kept])]
              exact induction others

/-- A dictionary. -/
structure Dictionary (κ : Type u) (α : Type v) where
  /-- The entries, oldest key first. -/
  entries : List (κ × α)
  /-- No key has two entries. -/
  nodup : (entries.map Prod.fst).Nodup
  deriving DecidableEq, Repr

namespace Dictionary

variable {κ : Type u} {α : Type v}

/-- The dictionary without entries. -/
def empty : Dictionary κ α := ⟨[], List.nodup_nil⟩

/-- The keys, oldest first. -/
def keys (dictionary : Dictionary κ α) : List κ := dictionary.entries.map Prod.fst

/-- The values, in the order of their keys. -/
def values (dictionary : Dictionary κ α) : List α := dictionary.entries.map Prod.snd

/-- Two entries of one key are the same. -/
theorem eq_of_mem {dictionary : Dictionary κ α} {left right : κ × α}
    (leftMember : left ∈ dictionary.entries) (rightMember : right ∈ dictionary.entries)
    (key : left.1 = right.1) : left = right :=
  List.inj_on_of_nodup_map dictionary.nodup leftMember rightMember key

/-- The dictionary with other values under its keys. -/
def map {β : Type w} (f : α → β) (dictionary : Dictionary κ α) : Dictionary κ β where
  entries := dictionary.entries.map fun entry => (entry.1, f entry.2)
  nodup := by
    rw [List.map_map]
    exact dictionary.nodup

/-- The entries whose values become something. -/
def filterMap {β : Type w} (become : κ → α → Option β) (dictionary : Dictionary κ α) :
    Dictionary κ β where
  entries := dictionary.entries.filterMap fun entry =>
    (become entry.1 entry.2).map fun value => (entry.1, value)
  nodup := by
    refine dictionary.nodup.sublist ?_
    induction dictionary.entries with
    | nil => exact List.Sublist.slnil
    | cons entry entries induction =>
        cases made : become entry.1 entry.2 with
        | none => simpa [made] using induction.cons entry.1
        | some value => simpa [made] using induction

variable [DecidableEq κ]

/-- The value of a key. -/
def get? (dictionary : Dictionary κ α) (key : κ) : Option α := dictionary.entries.lookup key

/-- The entries after a key has been set. -/
def setEntries (entries : List (κ × α)) (key : κ) (value : α) : List (κ × α) :=
  if key ∈ entries.map Prod.fst then
    entries.map fun entry => if entry.1 = key then (key, value) else entry
  else entries ++ [(key, value)]

theorem nodup_setEntries {entries : List (κ × α)} (nodup : (entries.map Prod.fst).Nodup) (key : κ)
    (value : α) : ((setEntries entries key value).map Prod.fst).Nodup := by
  by_cases known : key ∈ entries.map Prod.fst
  · have same : (setEntries entries key value).map Prod.fst = entries.map Prod.fst := by
      rw [setEntries, if_pos known, List.map_map]
      refine List.map_congr_left fun entry _ => ?_
      by_cases hit : entry.1 = key
      · simp [hit]
      · simp [hit]
    rw [same]
    exact nodup
  · rw [setEntries, if_neg known, List.map_append, List.map_singleton]
    exact List.concat_eq_append ▸ nodup.concat known

/-- Give a key a value. -/
def set (dictionary : Dictionary κ α) (key : κ) (value : α) : Dictionary κ α :=
  ⟨setEntries dictionary.entries key value, nodup_setEntries dictionary.nodup key value⟩

theorem lookup_setEntries (entries : List (κ × α)) (key : κ) (value : α) (other : κ) :
    (setEntries entries key value).lookup other =
      if other = key then some value else entries.lookup other := by
  have replaced : ∀ entries : List (κ × α),
      (entries.map fun entry => if entry.1 = key then (key, value) else entry).lookup other =
        if other = key ∧ key ∈ entries.map Prod.fst then some value else entries.lookup other := by
    intro entries
    induction entries with
    | nil => rw [if_neg (by simp)]; rfl
    | cons entry entries induction =>
        obtain ⟨name, held⟩ := entry
        rw [List.map_cons, List.lookup_cons, induction, List.lookup_cons]
        grind
  rw [setEntries]
  split
  · rw [replaced]
    grind
  · rename_i fresh
    rw [List.lookup_append, List.lookup_cons, List.lookup_nil]
    have absent : entries.lookup key = none := lookup_of_not_mem fresh
    grind

/-- What is found once a key has been set. -/
theorem get?_set (dictionary : Dictionary κ α) (key : κ) (value : α) (other : κ) :
    (dictionary.set key value).get? other =
      if other = key then some value else dictionary.get? other :=
  lookup_setEntries dictionary.entries key value other

/-- A key is found with the value of its entry. -/
theorem get?_eq_some_iff {dictionary : Dictionary κ α} {key : κ} {value : α} :
    dictionary.get? key = some value ↔ (key, value) ∈ dictionary.entries := by
  constructor
  · exact mem_of_lookup
  · intro member
    cases found : dictionary.get? key with
    | none =>
        have absent := List.lookup_eq_none_iff.mp found _ member
        exact absurd rfl (bne_iff_ne.mp absent)
    | some held =>
        have same := dictionary.eq_of_mem (mem_of_lookup found) member rfl
        exact congrArg (fun entry => some entry.2) same

/-- Drop a key. -/
def erase (dictionary : Dictionary κ α) (key : κ) : Dictionary κ α where
  entries := dictionary.entries.filter fun entry => entry.1 ≠ key
  nodup := dictionary.nodup.sublist (List.filter_sublist.map Prod.fst)

/-- An entry after a key has been set is the new one, or an old one of another key. -/
theorem mem_setEntries {entries : List (κ × α)} {key : κ} {value : α} {entry : κ × α}
    (member : entry ∈ setEntries entries key value) : entry = (key, value) ∨ entry ∈ entries := by
  rw [setEntries] at member
  split at member
  · obtain ⟨old, there, rfl⟩ := List.mem_map.mp member
    by_cases hit : old.1 = key
    · exact Or.inl (if_pos hit)
    · rw [if_neg hit]
      exact Or.inr there
  · rcases List.mem_append.mp member with old | new
    · exact Or.inr old
    · exact Or.inl (List.mem_singleton.mp new)

theorem mem_set {dictionary : Dictionary κ α} {key : κ} {value : α} {entry : κ × α}
    (member : entry ∈ (dictionary.set key value).entries) :
    entry = (key, value) ∨ entry ∈ dictionary.entries := mem_setEntries member

/-- What is found once a key has been dropped. -/
theorem get?_erase (dictionary : Dictionary κ α) (key other : κ) :
    (dictionary.erase key).get? other =
      if other = key then none else dictionary.get? other := by
  have filtered : (dictionary.erase key).get? other =
      (dictionary.get? other).filter fun value => decide ((other, value).1 ≠ key) :=
    lookup_filter dictionary.nodup (fun entry => decide (entry.1 ≠ key)) other
  rw [filtered]
  by_cases same : other = key
  · cases dictionary.get? other with
    | none => simp
    | some value => simp [Option.filter, same]
  · cases dictionary.get? other with
    | none => simp
    | some value => simp [Option.filter, same]

theorem length_erase_le (dictionary : Dictionary κ α) (key : κ) :
    (dictionary.erase key).entries.length ≤ dictionary.entries.length :=
  List.length_filter_le _ _

theorem length_set_le (dictionary : Dictionary κ α) (key : κ) (value : α) :
    (dictionary.set key value).entries.length ≤ dictionary.entries.length + 1 := by
  simp only [set, setEntries]
  split
  · rw [List.length_map]
    exact Nat.le_succ _
  · exact Nat.le_of_eq List.length_append

/-- Setting a key that is there adds no entry. -/
theorem length_set_of_get? {dictionary : Dictionary κ α} {key : κ} {held : α}
    (found : dictionary.get? key = some held) (value : α) :
    (dictionary.set key value).entries.length = dictionary.entries.length := by
  have known : key ∈ dictionary.entries.map Prod.fst := List.mem_map_of_mem (mem_of_lookup found)
  simp only [set, setEntries, if_pos known, List.length_map]

/-- Setting a key to the value it has changes nothing. -/
theorem set_of_get? {dictionary : Dictionary κ α} {key : κ} {held : α}
    (found : dictionary.get? key = some held) : dictionary.set key held = dictionary := by
  have there : (key, held) ∈ dictionary.entries := mem_of_lookup found
  have same : setEntries dictionary.entries key held = dictionary.entries := by
    rw [setEntries, if_pos (List.mem_map_of_mem there)]
    conv => rhs; rw [← List.map_id dictionary.entries]
    refine List.map_congr_left fun entry member => ?_
    split
    · next hit => exact dictionary.eq_of_mem there member hit.symm
    · rfl
  rw [set]
  congr

theorem get?_map {β : Type w} (f : α → β) (dictionary : Dictionary κ α) (key : κ) :
    (dictionary.map f).get? key = (dictionary.get? key).map f := by
  have mapped : ∀ entries : List (κ × α),
      (entries.map fun entry => (entry.1, f entry.2)).lookup key = (entries.lookup key).map f := by
    intro entries
    induction entries with
    | nil => rfl
    | cons entry entries induction =>
        rw [List.map_cons, List.lookup_cons, List.lookup_cons, induction]
        cases key == entry.1 with
        | true => rfl
        | false => rfl
  exact mapped dictionary.entries

/-- Setting a key and changing all values can be done in either order. -/
theorem map_set {β : Type w} (f : α → β) (dictionary : Dictionary κ α) (key : κ) (value : α) :
    (dictionary.set key value).map f = (dictionary.map f).set key (f value) := by
  have keys : (dictionary.entries.map fun entry => (entry.1, f entry.2)).map Prod.fst =
      dictionary.entries.map Prod.fst := by
    rw [List.map_map]
    rfl
  have same : ((setEntries dictionary.entries key value).map fun entry => (entry.1, f entry.2)) =
      setEntries (dictionary.entries.map fun entry => (entry.1, f entry.2)) key (f value) := by
    rw [setEntries, setEntries, keys]
    split
    · rw [List.map_map, List.map_map]
      refine List.map_congr_left fun entry _ => ?_
      simp only [Function.comp_apply]
      split
      · rfl
      · rfl
    · rw [List.map_append, List.map_singleton]
  simp only [map, set, same]

/-- Dropping a key and changing all values can be done in either order. -/
theorem map_erase {β : Type w} (f : α → β) (dictionary : Dictionary κ α) (key : κ) :
    (dictionary.erase key).map f = (dictionary.map f).erase key := by
  simp only [map, erase, List.filter_map, Function.comp_def]

/-- The dictionary once the entries of another have been set, in their order. -/
def update (dictionary other : Dictionary κ α) : Dictionary κ α :=
  other.entries.foldl (fun dictionary entry => dictionary.set entry.1 entry.2) dictionary

/-- The other dictionary's value wins. -/
theorem get?_update (dictionary other : Dictionary κ α) (key : κ) :
    (dictionary.update other).get? key = (other.get? key).or (dictionary.get? key) := by
  have folded : ∀ (entries : List (κ × α)) (dictionary : Dictionary κ α),
      (entries.map Prod.fst).Nodup →
      (entries.foldl (fun dictionary entry => dictionary.set entry.1 entry.2) dictionary).get? key =
        (entries.lookup key).or (dictionary.get? key) := by
    intro entries
    induction entries with
    | nil => exact fun dictionary _ => rfl
    | cons entry entries induction =>
        intro dictionary nodup
        obtain ⟨fresh, others⟩ := List.nodup_cons.mp nodup
        rw [List.foldl_cons, induction _ others, get?_set, List.lookup_cons]
        by_cases same : key = entry.1
        · rw [if_pos same, beq_iff_eq.mpr same, same, lookup_of_not_mem fresh]
          rfl
        · rw [if_neg same, beq_eq_false_iff_ne.mpr same]
  exact folded other.entries dictionary other.nodup

/-- Set the keys of a list whose values can be used. -/
def collect {β : Type w} (use : β → Option α) (entries : List (κ × β)) : Dictionary κ α :=
  entries.foldl
    (fun dictionary entry => ((use entry.2).map (dictionary.set entry.1)).getD dictionary) empty

theorem get?_collect {β : Type w} (use : β → Option α) {entries : List (κ × β)}
    (nodup : (entries.map Prod.fst).Nodup) (key : κ) :
    (collect use entries).get? key = (entries.lookup key).bind use := by
  have folded : ∀ (entries : List (κ × β)) (dictionary : Dictionary κ α),
      (entries.map Prod.fst).Nodup →
      (entries.foldl (fun dictionary entry =>
          ((use entry.2).map (dictionary.set entry.1)).getD dictionary) dictionary).get? key =
        ((entries.lookup key).bind use).or (dictionary.get? key) := by
    intro entries
    induction entries with
    | nil => exact fun dictionary _ => rfl
    | cons entry entries induction =>
        intro dictionary nodup
        obtain ⟨fresh, others⟩ := List.nodup_cons.mp nodup
        rw [List.foldl_cons, induction _ others, List.lookup_cons]
        by_cases same : key = entry.1
        · rw [beq_iff_eq.mpr same, same, lookup_of_not_mem fresh]
          cases used : use entry.2 with
          | none => simp [used]
          | some value => simp [used, get?_set]
        · rw [beq_eq_false_iff_ne.mpr same]
          cases use entry.2 with
          | none => rfl
          | some value => simp [get?_set, same]
  rw [collect, folded entries empty nodup]
  exact Option.or_none

theorem get?_filterMap {β : Type w} (become : κ → α → Option β) (dictionary : Dictionary κ α)
    (key : κ) :
    (dictionary.filterMap become).get? key = (dictionary.get? key).bind (become key) := by
  have filtered : ∀ entries : List (κ × α), (entries.map Prod.fst).Nodup →
      (entries.filterMap fun entry =>
        (become entry.1 entry.2).map fun value => (entry.1, value)).lookup key =
          (entries.lookup key).bind (become key) := by
    intro entries
    induction entries with
    | nil => exact fun _ => rfl
    | cons entry entries induction =>
        intro nodup
        obtain ⟨fresh, others⟩ := List.nodup_cons.mp nodup
        have later := induction others
        rw [List.lookup_cons]
        by_cases same : key = entry.1
        · subst same
          rw [lookup_of_not_mem fresh] at later
          cases made : become entry.1 entry.2 with
          | none => simpa [made] using later
          | some value => simp [made]
        · rw [beq_eq_false_iff_ne.mpr same]
          cases made : become entry.1 entry.2 with
          | none => simpa [made] using later
          | some value => simpa [made, List.lookup_cons, beq_eq_false_iff_ne.mpr same] using later
  exact filtered dictionary.entries dictionary.nodup

/-- The values are what the keys give. -/
theorem mem_values_iff {dictionary : Dictionary κ α} {value : α} :
    value ∈ dictionary.values ↔ ∃ key, dictionary.get? key = some value := by
  simp only [values, List.mem_map, get?_eq_some_iff]
  constructor
  · rintro ⟨entry, member, rfl⟩
    exact ⟨entry.1, member⟩
  · rintro ⟨key, member⟩
    exact ⟨(key, value), member, rfl⟩

theorem mem_of_mem_erase {dictionary : Dictionary κ α} {key : κ} {entry : κ × α}
    (member : entry ∈ (dictionary.erase key).entries) : entry ∈ dictionary.entries :=
  List.mem_of_mem_filter member

end Dictionary
end Library
