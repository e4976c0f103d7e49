import AqaraLanLink.Reference.Classify

/-!
# Names that tell entities apart

What `disambiguate_names` of `device/naming.py` makes of any list of descriptors, and when the names
it gives are distinct.
-/

namespace AqaraLanLink
namespace Reference
namespace Naming

open Library DeviceTypes

/-! ## Groups -/

/-- What `_endpoint_of` finds in a key that can be read. -/
def endpointRead (descriptor : AnyDescriptor) : Option ℕ :=
  (endpointOf descriptor.key).toOption.join

/-- The endpoint that counts, zero where there is none. -/
def endpoint (descriptor : AnyDescriptor) : ℕ := (endpointRead descriptor).getD 0

abbrev IsZone (descriptor : AnyDescriptor) : Prop := zoneEndpointBase ≤ endpoint descriptor

/-- How many descriptors have a name. -/
def sharing (descriptors : List AnyDescriptor) (name : String) : ℕ :=
  descriptors.countP fun descriptor => descriptor.name = name

/-- How many of them are on low endpoints. -/
def lowSharing (descriptors : List AnyDescriptor) (name : String) : ℕ :=
  descriptors.countP fun descriptor => descriptor.name = name ∧ ¬ IsZone descriptor

variable {descriptors : List AnyDescriptor}

/-- The indices and endpoints of the descriptors that have a name. -/
def members (descriptors : List AnyDescriptor) (name : String) : List (ℕ × Option ℕ) :=
  (descriptors.zipIdx.filter fun member => member.1.name = name).map fun member =>
    (member.2, endpointRead member.1)

/-- Those on low endpoints, in the order of their endpoints. -/
def ordered (descriptors : List AnyDescriptor) (name : String) : List (ℕ × Option ℕ) :=
  ((members descriptors name).filter fun member => member.2.getD 0 < zoneEndpointBase).insertionSort
    fun left right => left.2.getD 0 ≤ right.2.getD 0

/-- What is appended to a name. -/
inductive Mark where
  | bare
  | zone (number : ℕ)
  | rank (number : ℕ)
  deriving DecidableEq, Repr

/-- The name with its mark. -/
def label (name : String) : Mark → String
  | .bare => name
  | .zone number => name ++ " (zone " ++ toString number ++ ")"
  | .rank number => name ++ " " ++ toString number

/-- The mark of the descriptor at an index. -/
def markOf (descriptors : List AnyDescriptor) (member : AnyDescriptor × ℕ) : Mark :=
  if sharing descriptors member.1.name < 2 then .bare
  else if IsZone member.1 then .zone (endpoint member.1 - zoneEndpointBase)
  else if 1 < lowSharing descriptors member.1.name then
    .rank ((ordered descriptors member.1.name).findIdx (fun other => other.1 = member.2) + 1)
  else .bare

/-- The descriptor with its new name. -/
def marked (descriptors : List AnyDescriptor) (member : AnyDescriptor × ℕ) : AnyDescriptor :=
  { member.1 with
    name := label member.1.name (markOf descriptors member)
    enabledDefault := match markOf descriptors member with
      | .zone _ => false
      | _ => member.1.enabledDefault }

theorem length_group (descriptors : List AnyDescriptor) (name : String) :
    (descriptors.zipIdx.filter fun member => member.1.name = name).length =
      sharing descriptors name := by
  rw [← List.countP_eq_length_filter, sharing]
  conv => rhs; rw [← List.zipIdx_map_fst 0 descriptors, List.countP_map]
  rfl

theorem length_ordered (descriptors : List AnyDescriptor) (name : String) :
    (ordered descriptors name).length = lowSharing descriptors name := by
  rw [ordered, List.length_insertionSort, ← List.countP_eq_length_filter, members, List.countP_map,
    List.countP_filter, lowSharing]
  conv => rhs; rw [← List.zipIdx_map_fst 0 descriptors, List.countP_map]
  refine List.countP_congr fun member _ => ?_
  simp [IsZone, endpoint, and_comm]

theorem nodup_members (descriptors : List AnyDescriptor) (name : String) :
    ((members descriptors name).map Prod.fst).Nodup := by
  rw [members, List.map_map]
  have indices : (descriptors.zipIdx.map Prod.snd).Nodup := by
    rw [List.zipIdx_map_snd]
    exact List.nodup_range'
  exact indices.sublist (List.filter_sublist.map Prod.snd)

theorem mem_members {member : AnyDescriptor × ℕ} (known : member ∈ descriptors.zipIdx) :
    (member.2, endpointRead member.1) ∈ members descriptors member.1.name :=
  List.mem_map.mpr ⟨member, List.mem_filter.mpr ⟨known, decide_eq_true rfl⟩, rfl⟩

theorem rename_members {member : AnyDescriptor × ℕ} (known : member ∈ descriptors.zipIdx)
    (shared : 2 ≤ sharing descriptors member.1.name) :
    rename (members descriptors member.1.name) member.1 member.2 = marked descriptors member := by
  have found : (members descriptors member.1.name).lookup member.2 =
      some (endpointRead member.1) :=
    let dictionary : Dictionary ℕ (Option ℕ) :=
      ⟨members descriptors member.1.name, nodup_members _ _⟩
    (dictionary.get?_eq_some_iff).mpr (mem_members known)
  have low := length_ordered descriptors member.1.name
  rw [ordered, List.length_insertionSort] at low
  simp only [rename, found, Option.join_some, low, marked, markOf, if_neg (not_lt.mpr shared)]
  rw [← endpoint]
  by_cases zone : zoneEndpointBase ≤ endpoint member.1
  · rw [if_pos zone, if_pos zone]
    rfl
  · rw [if_neg zone, if_neg zone]
    split
    · rfl
    · rfl

/-- The keys of the descriptors that share their name can be read. -/
def Readable (descriptors : List AnyDescriptor) : Prop :=
  ∀ descriptor ∈ descriptors, 2 ≤ sharing descriptors descriptor.name →
    Returns (endpointOf descriptor.key)

theorem endpointOf_eq {descriptor : AnyDescriptor}
    (readable : Returns (endpointOf descriptor.key)) :
    endpointOf descriptor.key = .ok (endpointRead descriptor) := by
  obtain ⟨value, read⟩ := readable
  rw [endpointRead, read]
  rfl

/-- What the pass returns on keys that can be read. -/
theorem disambiguateNames_eq (readable : Readable descriptors) :
    disambiguateNames descriptors = .ok (descriptors.zipIdx.map (marked descriptors)) := by
  rw [disambiguateNames, mapM_eq_ok_iff, List.forall₂_map_right_iff, List.forall₂_same]
  intro member known
  rw [disambiguated]
  simp only [length_group]
  by_cases shared : sharing descriptors member.1.name < 2
  · rw [if_pos shared, marked, markOf, if_pos shared]
    rfl
  · have read : (descriptors.zipIdx.filter fun other => other.1.name = member.1.name).mapM
        (fun other => do
          let endpoint ← endpointOf other.1.key
          pure (other.2, endpoint)) =
        (.ok (members descriptors member.1.name) : Except PythonError _) := by
      rw [mapM_eq_ok_iff, members, List.forall₂_map_right_iff, List.forall₂_same]
      intro other sharer
      obtain ⟨there, same⟩ := List.mem_filter.mp sharer
      have name : other.1.name = member.1.name := of_decide_eq_true same
      have key := readable other.1 (List.fst_mem_of_mem_zipIdx there) (by rw [name]; omega)
      rw [endpointOf_eq key, ok_bind]
      rfl
    rw [if_neg shared, read, ok_bind, rename_members known (not_lt.mp shared)]
    rfl

/-- And it returns on no others. -/
theorem readable_of_returns (returns : Returns (disambiguateNames descriptors)) :
    Readable descriptors := by
  intro descriptor known shared
  obtain ⟨results, done⟩ := returns
  obtain ⟨index, inside, here⟩ := List.getElem_of_mem known
  have member : (descriptor, index) ∈ descriptors.zipIdx := by
    rw [List.mk_mem_zipIdx_iff_getElem?, ← here, List.getElem?_eq_getElem inside]
  obtain ⟨result, step⟩ := returns_of_mapM done (descriptor, index) member
  rw [disambiguated] at step
  simp only [length_group] at step
  rw [if_neg (not_lt.mpr shared)] at step
  obtain ⟨read, each, -⟩ := bind_eq_ok_iff.mp step
  have sharer : (descriptor, index) ∈
      descriptors.zipIdx.filter fun other => other.1.name = descriptor.name :=
    List.mem_filter.mpr ⟨member, decide_eq_true rfl⟩
  obtain ⟨pair, own⟩ := returns_of_mapM each (descriptor, index) sharer
  obtain ⟨value, found, -⟩ := bind_eq_ok_iff.mp own
  exact ⟨value, found⟩

/-! ## Labels -/

theorem toList_label_zone (name : String) (number : ℕ) :
    (label name (.zone number)).toList =
      name.toList ++ [' ', '(', 'z', 'o', 'n', 'e', ' '] ++ Nat.toDigits 10 number ++ [')'] := by
  rw [label]
  simp [Nat.toString_eq_repr, Nat.toList_repr]

theorem toList_label_rank (name : String) (number : ℕ) :
    (label name (.rank number)).toList = name.toList ++ [' '] ++ Nat.toDigits 10 number := by
  rw [label]
  simp [Nat.toString_eq_repr, Nat.toList_repr]

/-- A text is split at its last separator in one way. -/
theorem eq_of_last_separator {before before' after after' : List Char} {separator : Char}
    (free : separator ∉ after) (free' : separator ∉ after')
    (same : before ++ separator :: after = before' ++ separator :: after') :
    before = before' ∧ after = after' := by
  -- The longer of the two fronts would have its separator inside the other's rest.
  have longer {front front' rest rest' : List Char} (free : separator ∉ rest)
      (same : front ++ separator :: rest = front' ++ separator :: rest')
      (length : front.length ≤ front'.length) : front = front' := by
    obtain ⟨more, whole⟩ := List.prefix_of_prefix_length_le (List.prefix_append _ _)
      (same ▸ List.prefix_append front' _) length
    cases more with
    | nil => rwa [List.append_nil] at whole
    | cons head more =>
        rw [← whole, List.append_assoc, List.append_cancel_left_eq, List.cons_append] at same
        rw [(List.cons.inj same).2] at free
        exact absurd (List.mem_append_right more List.mem_cons_self) free
  have fronts : before = before' := by
    rcases Nat.le_total before.length before'.length with length | length
    · exact longer free same length
    · exact (longer free' same.symm length).symm
  rw [fronts, List.append_cancel_left_eq] at same
  exact ⟨fronts, (List.cons.inj same).2⟩

theorem not_mem_toDigits {letter : Char} (other : letter.isDigit = false) (number : ℕ) :
    letter ∉ Nat.toDigits 10 number := by
  intro member
  rw [Nat.isDigit_of_mem_toDigits (by omega) (Nat.le_refl 10) member] at other
  cases other

theorem toDigits_inj {number number' : ℕ}
    (same : Nat.toDigits 10 number = Nat.toDigits 10 number') : number = number' := by
  rw [← Nat.ofDigitChars_ten_toDigits (n := number), same, Nat.ofDigitChars_ten_toDigits]

/-- Two texts that end in digits behind a space are the same only part by part. -/
theorem eq_of_spaced {left right : List Char} {number number' : ℕ}
    (same : left ++ [' '] ++ Nat.toDigits 10 number = right ++ [' '] ++ Nat.toDigits 10 number') :
    left = right ∧ number = number' := by
  rw [List.append_assoc, List.append_assoc] at same
  obtain ⟨fronts, digits⟩ := eq_of_last_separator (not_mem_toDigits rfl number)
    (not_mem_toDigits rfl number') same
  exact ⟨fronts, toDigits_inj digits⟩

theorem label_zone_inj {name other : String} {number number' : ℕ}
    (same : label name (.zone number) = label other (.zone number')) :
    name = other ∧ number = number' := by
  have letters := congrArg String.toList same
  rw [toList_label_zone, toList_label_zone, List.append_cancel_right_eq] at letters
  have spaced (front : List Char) : front ++ [' ', '(', 'z', 'o', 'n', 'e', ' '] =
      front ++ [' ', '(', 'z', 'o', 'n', 'e'] ++ [' '] := by
    rw [List.append_assoc]
    rfl
  rw [spaced, spaced] at letters
  obtain ⟨fronts, numbers⟩ := eq_of_spaced letters
  exact ⟨String.toList_inj.mp (List.append_cancel_right fronts), numbers⟩

theorem label_rank_inj {name other : String} {number number' : ℕ}
    (same : label name (.rank number) = label other (.rank number')) :
    name = other ∧ number = number' := by
  have letters := congrArg String.toList same
  rw [toList_label_rank, toList_label_rank] at letters
  obtain ⟨fronts, numbers⟩ := eq_of_spaced letters
  exact ⟨String.toList_inj.mp fronts, numbers⟩

/-- A zone ends in a parenthesis and a rank in a digit. -/
theorem label_zone_ne_rank {name other : String} {number number' : ℕ} :
    label name (.zone number) ≠ label other (.rank number') := by
  intro same
  have letters := congrArg String.toList same
  rw [toList_label_zone, toList_label_rank] at letters
  have last := congrArg List.getLast? letters
  rw [List.getLast?_concat, List.getLast?_append_of_ne_nil _ Nat.toDigits_ne_nil] at last
  exact not_mem_toDigits rfl number' (List.mem_of_getLast? last.symm)

/-- Marked names are the same only for one name and one mark. -/
theorem label_inj {name other : String} {mark mark' : Mark} (marked : mark ≠ .bare)
    (marked' : mark' ≠ .bare) (same : label name mark = label other mark') :
    name = other ∧ mark = mark' := by
  cases mark with
  | bare => exact absurd rfl marked
  | zone number =>
      cases mark' with
      | bare => exact absurd rfl marked'
      | zone number' =>
          obtain ⟨names, numbers⟩ := label_zone_inj same
          exact ⟨names, congrArg Mark.zone numbers⟩
      | rank number' => exact absurd same label_zone_ne_rank
  | rank number =>
      cases mark' with
      | bare => exact absurd rfl marked'
      | zone number' => exact absurd same.symm label_zone_ne_rank
      | rank number' =>
          obtain ⟨names, numbers⟩ := label_rank_inj same
          exact ⟨names, congrArg Mark.rank numbers⟩

/-! ## Distinct names -/

/-- Nothing is appended to the name: no other descriptor has it, or the others are all zones. -/
def Keeps (descriptors : List AnyDescriptor) (descriptor : AnyDescriptor) : Prop :=
  sharing descriptors descriptor.name < 2 ∨
    ¬ IsZone descriptor ∧ lowSharing descriptors descriptor.name < 2

/-- The names and keys of a list with which the names it gets are distinct. -/
structure Distinguishable (descriptors : List AnyDescriptor) : Prop where
  readable : Readable descriptors
  /-- Zones of one name are on different endpoints. -/
  zones_apart : descriptors.Pairwise fun left right =>
    left.name = right.name → IsZone left → IsZone right → endpoint left ≠ endpoint right
  /-- No name that is kept is that of a zone of a shared name. -/
  zone_free : ∀ kept ∈ descriptors, Keeps descriptors kept → ∀ other ∈ descriptors,
    2 ≤ sharing descriptors other.name → IsZone other →
      kept.name ≠ label other.name (.zone (endpoint other - zoneEndpointBase))
  /-- No name that is kept is a rank among those on low endpoints that share a name. -/
  rank_free : ∀ kept ∈ descriptors, Keeps descriptors kept → ∀ name number,
    2 ≤ lowSharing descriptors name → 1 ≤ number → number ≤ lowSharing descriptors name →
      kept.name ≠ label name (.rank number)

theorem lowSharing_le (descriptors : List AnyDescriptor) (name : String) :
    lowSharing descriptors name ≤ sharing descriptors name :=
  List.countP_mono_left fun descriptor _ low => by
    rw [decide_eq_true_eq] at low ⊢
    exact low.1

theorem markOf_eq_bare_iff {member : AnyDescriptor × ℕ} :
    markOf descriptors member = .bare ↔ Keeps descriptors member.1 := by
  rw [markOf, Keeps]
  split
  · next alone => exact ⟨fun _ => .inl alone, fun _ => rfl⟩
  · next shared =>
    split
    · next zone => simp [shared, zone]
    · next low =>
      split
      · next several =>
        simp only [reduceCtorEq, shared, low, false_or, not_false_eq_true, true_and, false_iff]
        omega
      · next lone =>
        simp only [shared, low, false_or, not_false_eq_true, true_and, true_iff]
        omega

theorem markOf_zone {member : AnyDescriptor × ℕ} {number : ℕ} :
    markOf descriptors member = .zone number ↔ 2 ≤ sharing descriptors member.1.name ∧
      IsZone member.1 ∧ endpoint member.1 - zoneEndpointBase = number := by
  rw [markOf]
  split
  · next alone => simp [Nat.not_le.mpr alone]
  · next shared =>
    split
    · next zone => simp [zone, Nat.le_of_not_lt shared]
    · next low =>
      split <;> simp [low]

theorem markOf_rank {member : AnyDescriptor × ℕ} {number : ℕ} :
    markOf descriptors member = .rank number ↔
      2 ≤ lowSharing descriptors member.1.name ∧ ¬ IsZone member.1 ∧
        (ordered descriptors member.1.name).findIdx (fun other => other.1 = member.2) + 1 =
          number := by
  have more := lowSharing_le descriptors member.1.name
  rw [markOf]
  split
  · next alone =>
    simp only [reduceCtorEq, false_iff, not_and]
    omega
  · next shared =>
    split
    · next zone => simp [zone]
    · next low =>
      split
      · next several => simp [low, Nat.succ_le_of_lt several]
      · next lone =>
        simp only [reduceCtorEq, false_iff, not_and]
        omega

theorem exists_mem_zipIdx {descriptor : AnyDescriptor} (known : descriptor ∈ descriptors) :
    ∃ index, (descriptor, index) ∈ descriptors.zipIdx := by
  obtain ⟨index, inside, here⟩ := List.getElem_of_mem known
  refine ⟨index, ?_⟩
  rw [List.mk_mem_zipIdx_iff_getElem?, ← here, List.getElem?_eq_getElem inside]

/-- Members at one index are one. -/
theorem eq_of_index {member member' : AnyDescriptor × ℕ} (known : member ∈ descriptors.zipIdx)
    (known' : member' ∈ descriptors.zipIdx) (same : member.2 = member'.2) : member = member' := by
  have here := List.mk_mem_zipIdx_iff_getElem?.mp known
  have here' := List.mk_mem_zipIdx_iff_getElem?.mp known'
  rw [same, here'] at here
  exact Prod.ext (Option.some.inj here).symm same

/-- Two members that pass a test count twice. -/
theorem two_le_countP {test : AnyDescriptor → Bool} {member member' : AnyDescriptor × ℕ}
    (known : member ∈ descriptors.zipIdx) (known' : member' ∈ descriptors.zipIdx)
    (apart : member ≠ member') (passes : test member.1) (passes' : test member'.1) :
    2 ≤ descriptors.countP test := by
  have both : [member, member'] ⊆ descriptors.zipIdx.filter fun member => test member.1 := by
    rw [List.cons_subset, List.cons_subset]
    exact ⟨List.mem_filter.mpr ⟨known, passes⟩, List.mem_filter.mpr ⟨known', passes'⟩,
      List.nil_subset _⟩
  have count := (List.subperm_of_subset (by simpa using apart) both).length_le
  rw [← List.countP_eq_length_filter] at count
  rw [← List.zipIdx_map_fst 0 descriptors, List.countP_map]
  exact count

/-- Of a name that is shared, at most one is kept. -/
theorem eq_of_keeps {member member' : AnyDescriptor × ℕ} (known : member ∈ descriptors.zipIdx)
    (known' : member' ∈ descriptors.zipIdx) (kept : Keeps descriptors member.1)
    (kept' : Keeps descriptors member'.1) (same : member.1.name = member'.1.name) :
    member = member' := by
  by_contra apart
  have shared : 2 ≤ sharing descriptors member.1.name :=
    two_le_countP known known' apart (decide_eq_true rfl) (decide_eq_true same.symm)
  rw [Keeps] at kept kept'
  rw [← same] at kept'
  obtain ⟨low, lone⟩ := kept.resolve_left (not_lt.mpr shared)
  obtain ⟨low', -⟩ := kept'.resolve_left (not_lt.mpr shared)
  have both : 2 ≤ lowSharing descriptors member.1.name :=
    two_le_countP known known' apart (decide_eq_true ⟨rfl, low⟩) (decide_eq_true ⟨same.symm, low'⟩)
  omega

theorem mem_ordered {name : String} {entry : ℕ × Option ℕ} :
    entry ∈ ordered descriptors name ↔ ∃ member ∈ descriptors.zipIdx, member.1.name = name ∧
      ¬ IsZone member.1 ∧ (member.2, endpointRead member.1) = entry := by
  rw [ordered, List.mem_insertionSort, List.mem_filter, members, List.mem_map]
  constructor
  · intro ⟨⟨member, there, here⟩, low⟩
    obtain ⟨known, name⟩ := List.mem_filter.mp there
    refine ⟨member, known, of_decide_eq_true name, ?_, here⟩
    rw [← here] at low
    exact not_le.mpr (of_decide_eq_true low)
  · intro ⟨member, known, name, low, here⟩
    refine ⟨⟨member, List.mem_filter.mpr ⟨known, decide_eq_true name⟩, here⟩, ?_⟩
    rw [← here]
    exact decide_eq_true (not_le.mp low)

theorem nodup_ordered (descriptors : List AnyDescriptor) (name : String) :
    ((ordered descriptors name).map Prod.fst).Nodup := by
  rw [ordered]
  refine (((List.perm_insertionSort _ _).map Prod.fst).nodup_iff).mpr ?_
  exact (nodup_members descriptors name).sublist (List.filter_sublist.map Prod.fst)

/-- Where a member on a low endpoint stands among those of its name. -/
theorem getElem?_ordered {member : AnyDescriptor × ℕ} (known : member ∈ descriptors.zipIdx)
    (low : ¬ IsZone member.1) :
    ((ordered descriptors member.1.name)[(ordered descriptors member.1.name).findIdx fun other =>
      other.1 = member.2]?).map Prod.fst = some member.2 := by
  have there := mem_ordered.mpr ⟨member, known, rfl, low, rfl⟩
  have inside : (ordered descriptors member.1.name).findIdx (fun other => other.1 = member.2) <
      (ordered descriptors member.1.name).length :=
    List.findIdx_lt_length_of_exists ⟨_, there, decide_eq_true rfl⟩
  have found := List.findIdx_getElem (w := inside)
  rw [List.getElem?_eq_getElem inside, Option.map_some, of_decide_eq_true found]

/-- No two members of a name have one rank. -/
theorem eq_of_rank {member member' : AnyDescriptor × ℕ} {number : ℕ}
    (known : member ∈ descriptors.zipIdx) (known' : member' ∈ descriptors.zipIdx)
    (same : member.1.name = member'.1.name) (rank : markOf descriptors member = .rank number)
    (rank' : markOf descriptors member' = .rank number) : member = member' := by
  obtain ⟨-, low, place⟩ := markOf_rank.mp rank
  obtain ⟨-, low', place'⟩ := markOf_rank.mp rank'
  have here := getElem?_ordered known low
  have here' := getElem?_ordered known' low'
  rw [← same] at place' here'
  rw [show List.findIdx _ _ = number - 1 from Nat.eq_sub_of_add_eq place] at here
  rw [show List.findIdx _ _ = number - 1 from Nat.eq_sub_of_add_eq place', here] at here'
  exact eq_of_index known known' (Option.some.inj here')

/-- Every rank up to their number is given. -/
theorem exists_rank {name : String} {number : ℕ} (several : 2 ≤ lowSharing descriptors name)
    (positive : 1 ≤ number) (last : number ≤ lowSharing descriptors name) :
    ∃ member ∈ descriptors.zipIdx, member.1.name = name ∧
      markOf descriptors member = .rank number := by
  have inside : number - 1 < (ordered descriptors name).length := by
    rw [length_ordered]
    omega
  obtain ⟨member, known, same, low, entry⟩ := mem_ordered.mp (List.getElem_mem inside)
  refine ⟨member, known, same, markOf_rank.mpr ⟨same ▸ several, low, ?_⟩⟩
  have first : (ordered descriptors name).findIdx (fun other => other.1 = member.2) =
      number - 1 := by
    rw [List.findIdx_eq inside]
    refine ⟨decide_eq_true (congrArg Prod.fst entry).symm, fun place before => ?_⟩
    refine decide_eq_false fun clash => ?_
    have left : place < ((ordered descriptors name).map Prod.fst).length := by
      rw [List.length_map]
      omega
    have right : number - 1 < ((ordered descriptors name).map Prod.fst).length := by
      rwa [List.length_map]
    have one : ((ordered descriptors name).map Prod.fst)[place] =
        ((ordered descriptors name).map Prod.fst)[number - 1] := by
      rw [List.getElem_map, List.getElem_map, clash, ← entry]
    have same := (nodup_ordered descriptors name).getElem_inj_iff.mp one
    omega
  rw [same, first]
  omega

theorem nodup_names_iff : ((descriptors.zipIdx.map (marked descriptors)).map (·.name)).Nodup ↔
    ∀ member ∈ descriptors.zipIdx, ∀ other ∈ descriptors.zipIdx,
      label member.1.name (markOf descriptors member) =
        label other.1.name (markOf descriptors other) → member = other := by
  have nodup : descriptors.zipIdx.Nodup := by
    have indices : (descriptors.zipIdx.map Prod.snd).Nodup := by
      rw [List.zipIdx_map_snd]
      exact List.nodup_range'
    exact indices.of_map
  rw [List.map_map, List.nodup_map_iff_inj_on nodup]
  rfl

/-- Distinct names, when the lists permit it. -/
theorem inj_of_distinguishable (apart : Distinguishable descriptors)
    {member other : AnyDescriptor × ℕ} (known : member ∈ descriptors.zipIdx)
    (known' : other ∈ descriptors.zipIdx)
    (same : label member.1.name (markOf descriptors member) =
      label other.1.name (markOf descriptors other)) : member = other := by
  have free {kept marked : AnyDescriptor × ℕ} (known : kept ∈ descriptors.zipIdx)
      (known' : marked ∈ descriptors.zipIdx) (bare : markOf descriptors kept = .bare)
      (same : kept.1.name = label marked.1.name (markOf descriptors marked)) :
      markOf descriptors marked = .bare := by
    have keeps := markOf_eq_bare_iff.mp bare
    have there := List.fst_mem_of_mem_zipIdx known
    cases mark : markOf descriptors marked with
    | bare => rfl
    | zone number =>
        obtain ⟨shared, zone, place⟩ := markOf_zone.mp mark
        rw [mark, ← place] at same
        exact absurd same (apart.zone_free kept.1 there keeps marked.1
          (List.fst_mem_of_mem_zipIdx known') shared zone)
    | rank number =>
        obtain ⟨several, low, place⟩ := markOf_rank.mp mark
        have inside : number ≤ lowSharing descriptors marked.1.name := by
          rw [← place, ← length_ordered]
          have here := getElem?_ordered known' low
          rw [Option.map_eq_some_iff] at here
          obtain ⟨entry, found, -⟩ := here
          exact (List.getElem?_eq_some_iff.mp found).1
        rw [mark] at same
        exact absurd same (apart.rank_free kept.1 there keeps _ _ several (by omega) inside)
  by_cases bare : markOf descriptors member = .bare
  · rw [bare] at same
    have bare' := free known known' bare same
    rw [bare'] at same
    exact eq_of_keeps known known' (markOf_eq_bare_iff.mp bare) (markOf_eq_bare_iff.mp bare') same
  by_cases bare' : markOf descriptors other = .bare
  · rw [bare'] at same
    exact absurd (free known' known bare' same.symm) bare
  obtain ⟨names, marks⟩ := label_inj bare bare' same
  cases mark : markOf descriptors other with
  | bare => exact absurd mark bare'
  | zone number =>
      obtain ⟨-, zone, place⟩ := markOf_zone.mp (marks.trans mark)
      obtain ⟨-, zone', place'⟩ := markOf_zone.mp mark
      have endpoints : endpoint member.1 = endpoint other.1 := by omega
      have pairs := List.pairwise_iff_getElem.mp apart.zones_apart
      obtain ⟨inside, here⟩ := List.getElem?_eq_some_iff.mp
        (List.mk_mem_zipIdx_iff_getElem?.mp known)
      obtain ⟨inside', here'⟩ := List.getElem?_eq_some_iff.mp
        (List.mk_mem_zipIdx_iff_getElem?.mp known')
      rcases Nat.lt_trichotomy member.2 other.2 with before | index | after
      · have clash := pairs _ _ inside inside' before
        rw [here, here'] at clash
        exact absurd endpoints (clash names zone zone')
      · exact eq_of_index known known' index
      · have clash := pairs _ _ inside' inside after
        rw [here, here'] at clash
        exact absurd endpoints.symm (clash names.symm zone' zone)
  | rank number => exact eq_of_rank known known' names (marks.trans mark) mark

/-- And only then. -/
theorem distinguishable_of_inj (readable : Readable descriptors)
    (inj : ∀ member ∈ descriptors.zipIdx, ∀ other ∈ descriptors.zipIdx,
      label member.1.name (markOf descriptors member) =
        label other.1.name (markOf descriptors other) → member = other) :
    Distinguishable descriptors := by
  -- A kept name is no marked one: the two would be one member with two marks.
  have free {kept marked : AnyDescriptor × ℕ} {name : String} {mark : Mark}
      (known : kept ∈ descriptors.zipIdx) (keeps : Keeps descriptors kept.1)
      (known' : marked ∈ descriptors.zipIdx) (named : marked.1.name = name)
      (marks : markOf descriptors marked = mark) (some : mark ≠ .bare) :
      kept.1.name ≠ label name mark := by
    intro same
    have bare := markOf_eq_bare_iff.mpr keeps
    rw [← named, ← marks] at same
    have one := inj kept known marked known' (by rw [bare]; exact same)
    rw [← marks, ← one] at some
    exact some bare
  refine ⟨readable, ?_, ?_, ?_⟩
  · rw [List.pairwise_iff_getElem]
    intro i j inside inside' before names zone zone' place
    have known : (descriptors[i], i) ∈ descriptors.zipIdx := by
      rw [List.mk_mem_zipIdx_iff_getElem?, List.getElem?_eq_getElem inside]
    have known' : (descriptors[j], j) ∈ descriptors.zipIdx := by
      rw [List.mk_mem_zipIdx_iff_getElem?, List.getElem?_eq_getElem inside']
    have apart : (descriptors[i], i) ≠ (descriptors[j], j) := fun same =>
      absurd (congrArg Prod.snd same) (by simpa using Nat.ne_of_lt before)
    have shared : 2 ≤ sharing descriptors descriptors[i].name :=
      two_le_countP known known' apart (decide_eq_true rfl) (decide_eq_true names.symm)
    have mark : markOf descriptors (descriptors[i], i) =
        .zone (endpoint descriptors[i] - zoneEndpointBase) := markOf_zone.mpr ⟨shared, zone, rfl⟩
    have mark' : markOf descriptors (descriptors[j], j) =
        .zone (endpoint descriptors[j] - zoneEndpointBase) :=
      markOf_zone.mpr ⟨names ▸ shared, zone', rfl⟩
    refine apart (inj _ known _ known' ?_)
    rw [mark, mark', place]
    exact congrArg (label · _) names
  · intro kept there keeps other there' shared zone
    obtain ⟨index, known⟩ := exists_mem_zipIdx there
    obtain ⟨index', known'⟩ := exists_mem_zipIdx there'
    exact free known keeps known' rfl (markOf_zone.mpr ⟨shared, zone, rfl⟩) (by simp)
  · intro kept there keeps name number several positive last
    obtain ⟨index, known⟩ := exists_mem_zipIdx there
    obtain ⟨ranked, known', named, mark⟩ := exists_rank several positive last
    exact free known keeps known' named mark (by simp)

/-! ## The pass -/

/-- What the pass is for: the same descriptors in the same order under distinct names, where only
names that were shared have changed, and only zones are off by default that were not. -/
structure Disambiguates (descriptors results : List AnyDescriptor) : Prop where
  each : List.Forall₂ (fun before after => after.key = before.key ∧
    (sharing descriptors before.name < 2 → after.name = before.name) ∧
    (¬ IsZone before → after.enabledDefault = before.enabledDefault)) descriptors results
  distinct : (results.map (·.name)).Nodup

theorem each_marked (descriptors : List AnyDescriptor) :
    List.Forall₂ (fun before after => after.key = before.key ∧
      (sharing descriptors before.name < 2 → after.name = before.name) ∧
      (¬ IsZone before → after.enabledDefault = before.enabledDefault)) descriptors
      (descriptors.zipIdx.map (marked descriptors)) := by
  rw [List.forall₂_map_right_iff]
  conv => arg 2; rw [← List.zipIdx_map_fst 0 descriptors]
  rw [List.forall₂_map_left_iff, List.forall₂_same]
  intro member known
  refine ⟨rfl, ?_, ?_⟩
  · intro alone
    have bare : markOf descriptors member = .bare := markOf_eq_bare_iff.mpr (.inl alone)
    rw [marked, bare]
    rfl
  · intro low
    rw [marked]
    cases mark : markOf descriptors member with
    | bare => rfl
    | zone number => exact absurd (markOf_zone.mp mark).2.1 low
    | rank number => rfl

/-- Names are told apart exactly on the lists that permit it. -/
theorem disambiguates_iff (descriptors : List AnyDescriptor) :
    (∃ results, disambiguateNames descriptors = .ok results ∧ Disambiguates descriptors results) ↔
      Distinguishable descriptors := by
  constructor
  · intro ⟨results, done, told⟩
    have readable := readable_of_returns ⟨results, done⟩
    rw [disambiguateNames_eq readable] at done
    have names := told.distinct
    rw [← Except.ok.inj done, nodup_names_iff] at names
    exact distinguishable_of_inj readable names
  · intro apart
    refine ⟨_, disambiguateNames_eq apart.readable, each_marked descriptors, ?_⟩
    rw [nodup_names_iff]
    intro member known other known' same
    exact inj_of_distinguishable apart known known' same

/-- A button. -/
def buttonOf (key name : String) : AnyDescriptor where
  key := key
  name := name
  binding := .button { name := key } "1"

/-- Two buttons of one name, and a third that already has the name the first of them is given. -/
theorem renamed_button_not_told_apart :
    ¬ ∀ descriptors : List AnyDescriptor, (descriptors.map (·.key)).Nodup →
      ∃ results, disambiguateNames descriptors = .ok results ∧
        Disambiguates descriptors results := by
  intro always
  have renamed : (disambiguateNames [buttonOf "auto_1_1_1" "Button",
      buttonOf "auto_2_1_1" "Button", buttonOf "auto_3_1_1" "Button 1"]).map
        (fun results => results.map (·.name)) = .ok ["Button 1", "Button 2", "Button 1"] := by
    decide +kernel
  obtain ⟨results, done, told⟩ := always [buttonOf "auto_1_1_1" "Button",
    buttonOf "auto_2_1_1" "Button", buttonOf "auto_3_1_1" "Button 1"] (by decide +kernel)
  rw [done] at renamed
  have names : results.map (·.name) = ["Button 1", "Button 2", "Button 1"] := Except.ok.inj renamed
  have distinct := told.distinct
  rw [names] at distinct
  exact absurd distinct (by decide +kernel)

end Naming
end Reference
end AqaraLanLink
