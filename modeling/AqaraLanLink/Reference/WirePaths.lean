import AqaraLanLink.Library.Dictionary
import AqaraLanLink.Reference.Protocol

/-!
# The paths of one trait

`device/setting_discovery.py`, and the forms in which a trait is named: the path of a write, the key
of a report, and the path under which a scan of the cloud files the id of its resource.
-/

namespace AqaraLanLink
namespace Reference
namespace WirePaths

open Library

/-! ## The ids of the resources -/

/-- `_canonical_path`: strip the trailing index from a path of four parts. -/
def canonicalPath (path : String) : String :=
  let parts := splitDots path
  if parts.length = 4 ∧ (parts.getLast?.any isdigit) then joinDots (parts.take 3) else path

/-- `value.get(key) or []`, unless that is no list.  What is not an object has no keys. -/
def listed (value : Json) (key : String) : List Json :=
  match value.get? key with
  | some (.array items) => items
  | _ => []

/-- The path and the resource id of a trait that has both. -/
def resource? (trait : Json) : Option (String × String) :=
  match trait.get? "path", trait.get? "propertyId" with
  | some (.string path), some (.array (.string rid :: _)) =>
      if path = "" ∨ rid = "" then none else some (path, rid)
  | _, _ => none

/-- A trait of the response: one without a usable path or resource id is skipped. -/
def fileTrait (form : String → String) (mapping : Dictionary String String) (trait : Json) :
    Dictionary String String :=
  match resource? trait with
  | some (path, rid) => mapping.set (form path) rid
  | none => mapping

/-- `extract_resource_id_map`, with the paths in the given form. -/
def fileResponse (form : String → String) (response : Json) : Dictionary String String :=
  (listed response "result").foldl
    (fun mapping device => (listed device "traits").foldl (fileTrait form) mapping) .empty

/-- `extract_resource_id_map`. -/
def extractResourceIdMap (response : Json) : Dictionary String String :=
  fileResponse canonicalPath response

/-- The resources of a response, in their order. -/
def resources (response : Json) : List (String × String) :=
  (listed response "result").flatMap fun device => (listed device "traits").filterMap resource?

theorem foldl_fileTrait {form other : String → String} {traits : List Json}
    (same : ∀ resource ∈ traits.filterMap resource?, form resource.1 = other resource.1)
    (mapping : Dictionary String String) :
    traits.foldl (fileTrait form) mapping = traits.foldl (fileTrait other) mapping := by
  apply List.foldl_ext
  intro mapping trait member
  rw [fileTrait, fileTrait]
  cases found : resource? trait with
  | none => rfl
  | some resource =>
      have agree := same resource (List.mem_filterMap.mpr ⟨trait, member, found⟩)
      dsimp only
      rw [agree]

/-- Only the paths of the resources are brought into a form. -/
theorem fileResponse_congr {form other : String → String} {response : Json}
    (same : ∀ resource ∈ resources response, form resource.1 = other resource.1) :
    fileResponse form response = fileResponse other response := by
  apply List.foldl_ext
  intro mapping device member
  apply foldl_fileTrait
  intro resource there
  exact same resource (List.mem_flatMap.mpr ⟨device, member, there⟩)

/-! ## Paths with an index -/

variable {body index : List Char} {key path : String}

theorem length_splitOn (separator : Char) (text : List Char) :
    (text.splitOn separator).length = text.count separator + 1 := by
  induction text with
  | nil => rfl
  | cons char text induction =>
      rw [List.splitOn_cons_eq_if_modifyHead, List.count_cons]
      split
      · rw [List.length_cons, induction]
      · rw [List.length_modifyHead, induction, Nat.add_zero]

/-- The parts of a key with an index. -/
theorem splitDots_indexed (last : '.' ∉ index) :
    splitDots (String.ofList (body ++ '.' :: index)) = body.splitOn '.' ++ [index] := by
  rw [splitDots, String.toList_ofList, List.splitOn_append_cons_self,
    List.splitOn_eq_singleton last]

/-- A key without an index is one part. -/
theorem indexed_or (key : String) :
    (splitDots key).length = 1 ∨
      ∃ body index, '.' ∉ index ∧ key = String.ofList (body ++ '.' :: index) := by
  by_cases dotted : '.' ∈ key.toList.reverse
  · obtain ⟨index, body, split, last⟩ := List.eq_append_cons_of_mem dotted
    refine .inr ⟨body.reverse, index.reverse, fun member => last (List.mem_reverse.mp member), ?_⟩
    have whole := congrArg List.reverse split
    rw [List.reverse_reverse, List.reverse_append, List.reverse_cons, List.append_assoc,
      List.singleton_append] at whole
    rw [← whole, String.ofList_toList]
  · left
    rw [splitDots, List.splitOn_eq_singleton fun member => dotted (List.mem_reverse.mpr member),
      List.length_singleton]

theorem joinDots_splitOn (body : List Char) :
    joinDots (body.splitOn '.') = String.ofList body := by
  rw [joinDots, List.intercalate_splitOn]

theorem canonicalizeReportKey_indexed (last : '.' ∉ index) :
    canonicalizeReportKey (String.ofList (body ++ '.' :: index)) =
      if 2 ≤ body.count '.' ∧ isdigit index then String.ofList body
      else String.ofList (body ++ '.' :: index) := by
  rw [canonicalizeReportKey, splitDots_indexed last]
  simp only [List.length_append, List.length_singleton, length_splitOn, List.getLast?_concat,
    Option.any_some, List.dropLast_concat, joinDots_splitOn]
  have bounds : 3 < body.count '.' + 1 + 1 ↔ 2 ≤ body.count '.' := by omega
  simp only [bounds]

theorem canonicalPath_indexed (last : '.' ∉ index) :
    canonicalPath (String.ofList (body ++ '.' :: index)) =
      if body.count '.' = 2 ∧ isdigit index then String.ofList body
      else String.ofList (body ++ '.' :: index) := by
  rw [canonicalPath, splitDots_indexed last]
  simp only [List.length_append, List.length_singleton, length_splitOn, List.getLast?_concat,
    Option.any_some]
  have bounds : body.count '.' + 1 + 1 = 4 ↔ body.count '.' = 2 := by omega
  simp only [bounds]
  split
  · next stripped =>
    have three : (body.splitOn '.').length = 3 := by rw [length_splitOn, stripped.1]
    rw [← three, List.take_left, joinDots_splitOn]
  · rfl

/-! ## One key for one trait -/

/-- A key of more than four parts with an index. -/
def Deep (key : String) : Prop :=
  4 < (splitDots key).length ∧ (splitDots key).getLast?.any isdigit

theorem deep_indexed (last : '.' ∉ index) :
    Deep (String.ofList (body ++ '.' :: index)) ↔ 2 < body.count '.' ∧ isdigit index := by
  rw [Deep, splitDots_indexed last, List.length_append, length_splitOn, List.length_singleton,
    List.getLast?_concat, Option.any_some]
  have bounds : 4 < body.count '.' + 1 + 1 ↔ 2 < body.count '.' := by omega
  rw [bounds]

theorem ofList_ne_indexed (body index : List Char) :
    String.ofList body ≠ String.ofList (body ++ '.' :: index) := by
  intro same
  have longer := congrArg List.length (String.ofList_injective same)
  rw [List.length_append, List.length_cons] at longer
  omega

/-- A path of one part is in every form. -/
theorem forms_of_length_eq_one (single : (splitDots key).length = 1) :
    canonicalizeReportKey key = key ∧ canonicalPath key = key ∧ ¬ Deep key := by
  refine ⟨?_, ?_, ?_⟩
  · rw [canonicalizeReportKey, single]
    exact if_neg fun long => absurd long.1 (by omega)
  · rw [canonicalPath, single]
    exact if_neg fun long => absurd long.1 (by omega)
  · rw [Deep, single]
    exact fun long => absurd long.1 (by omega)

/-- The two ways to strip an index differ exactly on the deep keys. -/
theorem canonicalPath_eq_iff (key : String) :
    canonicalPath key = canonicalizeReportKey key ↔ ¬ Deep key := by
  rcases indexed_or key with single | ⟨body, index, last, rfl⟩
  · obtain ⟨report, scan, shallow⟩ := forms_of_length_eq_one single
    rw [report, scan]
    exact iff_of_true rfl shallow
  · rw [canonicalPath_indexed last, canonicalizeReportKey_indexed last, deep_indexed last]
    by_cases digits : isdigit index = true
    · rcases Nat.lt_trichotomy (body.count '.') 2 with short | three | long
      · rw [if_neg (by omega), if_neg (by omega)]
        exact iff_of_true rfl (by omega)
      · rw [if_pos ⟨three, digits⟩, if_pos ⟨Nat.le_of_eq three.symm, digits⟩]
        exact iff_of_true rfl (by omega)
      · rw [if_neg (by omega), if_pos ⟨Nat.le_of_lt long, digits⟩]
        exact iff_of_false (ofList_ne_indexed body index).symm (not_not_intro ⟨long, digits⟩)
    · rw [if_neg fun both => digits both.2, if_neg fun both => digits both.2]
      exact iff_of_true rfl fun both => digits both.2

/-- What is left of a key of at most four parts has no index to strip. -/
theorem canonicalizeReportKey_idempotent (short : (splitDots key).length ≤ 4) :
    canonicalizeReportKey (canonicalizeReportKey key) = canonicalizeReportKey key := by
  rcases indexed_or key with single | ⟨body, index, last, rfl⟩
  · have same := (forms_of_length_eq_one single).1
    rw [same, same]
  · rw [splitDots_indexed last, List.length_append, length_splitOn, List.length_singleton] at short
    have form : canonicalizeReportKey (String.ofList (body ++ '.' :: index)) = _ :=
      canonicalizeReportKey_indexed last
    by_cases strips : 2 ≤ body.count '.' ∧ isdigit index = true
    · have three : (splitDots (String.ofList body)).length = 3 := by
        rw [splitDots, String.toList_ofList, length_splitOn]
        omega
      rw [form, if_pos strips, canonicalizeReportKey, three]
      exact if_neg fun long => Nat.lt_irrefl 3 long.1
    · rw [form, if_neg strips, form, if_neg strips]

theorem toWirePath_eq (three : (splitDots path).length = 3) :
    toWirePath path = String.ofList (path.toList ++ '.' :: ['1']) := by
  rw [splitDots, length_splitOn] at three
  have dots : path.toList.count '.' = 2 := by omega
  have suffix : ".1" = String.ofList ['.', '1'] := rfl
  rw [toWirePath, if_pos dots, String.ofList_append, String.ofList_toList, suffix]

theorem deep_toWirePath (three : (splitDots path).length = 3) : ¬ Deep (toWirePath path) := by
  rw [toWirePath_eq three, deep_indexed (by decide)]
  rw [splitDots, length_splitOn] at three
  omega

/-- A write to a path of three parts is reported under that path. -/
theorem canonicalizeReportKey_toWirePath (three : (splitDots path).length = 3) :
    canonicalizeReportKey (toWirePath path) = path := by
  rw [toWirePath_eq three, canonicalizeReportKey_indexed (by decide)]
  rw [splitDots, length_splitOn] at three
  rw [if_pos ⟨by omega, by decide⟩, String.ofList_toList]

/-- A deep path is filed as it is. -/
theorem canonicalPath_of_deep (deep : Deep key) : canonicalPath key = key := by
  rw [canonicalPath]
  exact if_neg fun four => absurd four.1 (Nat.ne_of_gt deep.1)

/-- The forms of a path agree, but for deep paths. -/
theorem wire_path_forms (path key : String) (response : Json) :
    ((splitDots path).length = 3 →
      canonicalizeReportKey (toWirePath path) = path ∧ canonicalPath (toWirePath path) = path) ∧
    ((splitDots key).length ≤ 4 →
      canonicalizeReportKey (canonicalizeReportKey key) = canonicalizeReportKey key) ∧
    (canonicalPath key = canonicalizeReportKey key ↔ ¬ Deep key) ∧
    (Deep key → canonicalPath key = key) ∧
    ((∀ resource ∈ resources response, ¬ Deep resource.1) →
      extractResourceIdMap response = fileResponse canonicalizeReportKey response) := by
  refine ⟨?_, canonicalizeReportKey_idempotent, canonicalPath_eq_iff key, canonicalPath_of_deep, ?_⟩
  · intro three
    have report := canonicalizeReportKey_toWirePath three
    have scan := (canonicalPath_eq_iff (toWirePath path)).mpr (deep_toWirePath three)
    exact ⟨report, scan.trans report⟩
  · intro shallow
    exact fileResponse_congr fun resource member =>
      (canonicalPath_eq_iff resource.1).mpr (shallow resource member)

/-- A scan with one trait, under the path of its writes. -/
def scanned : Json :=
  .object [("result", .array [.object [("traits", .array [.object
    [("path", .string "2.163.20237.1"), ("propertyId", .array [.string "14.35.85"])]])]])]

/-- The resource is filed where the trait's reports look, under the path that writes extend. -/
theorem scanned_forms :
    canonicalizeReportKey (toWirePath "2.163.20237") = "2.163.20237" ∧
    canonicalizeReportKey (canonicalizeReportKey "2.163.20237.1") =
      canonicalizeReportKey "2.163.20237.1" ∧
    canonicalPath "2.163.20237.1.0" = "2.163.20237.1.0" ∧
    extractResourceIdMap scanned = fileResponse canonicalizeReportKey scanned := by
  have forms := wire_path_forms "2.163.20237" "2.163.20237.1" scanned
  have deep := wire_path_forms "2.163.20237" "2.163.20237.1.0" scanned
  have shallow : ∀ resource ∈ resources scanned, ¬ Deep resource.1 := by
    intro resource member
    cases List.mem_singleton.mp (show resource ∈ [("2.163.20237.1", "14.35.85")] from member)
    exact fun long => absurd long.1 (by decide)
  exact ⟨(forms.1 (by decide)).1, forms.2.1 (by decide), deep.2.2.2.1 ⟨by decide, by decide⟩,
    forms.2.2.2.2 shallow⟩

/-- A path with two indices is reported without the last one and filed with it. -/
theorem deep_path_filed : ¬ ∀ key, canonicalPath key = canonicalizeReportKey key := by
  intro agree
  have same := agree "2.163.20237.1.0"
  exact absurd same (by decide)

end WirePaths
end Reference
end AqaraLanLink
