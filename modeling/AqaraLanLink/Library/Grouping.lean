import Mathlib.Data.List.Nodup
import Mathlib.Data.List.Pairwise
import Mathlib.Data.List.Perm.Basic

/-!
# Lists that are worked off in groups

What comes out of a list that is worked off group by group is, up to order, what comes out of its
items one by one.
-/

namespace Library

universe u v w

variable {α : Type u} {β : Type v} {κ : Type w}

/-- Working off the items that pass a test and then the others. -/
theorem perm_flatMap_filter (test : α → Bool) (become : α → List β) (items : List α) :
    ((items.filter test).flatMap become ++ (items.filter fun item => !test item).flatMap become).Perm
      (items.flatMap become) := by
  rw [← List.flatMap_append]
  exact (List.filter_append_perm test items).flatMap_right become

/-- Of distinct items only one becomes anything. -/
theorem flatMap_single [DecidableEq α] {items : List α} {chosen : α} (nodup : items.Nodup)
    (member : chosen ∈ items) (become : α → List β) :
    (items.flatMap fun item => if chosen = item then become item else []) = become chosen := by
  induction items with
  | nil => exact absurd member List.not_mem_nil
  | cons item items induction =>
      obtain ⟨fresh, later⟩ := List.nodup_cons.mp nodup
      rw [List.flatMap_cons]
      rcases List.mem_cons.mp member with rfl | there
      · have rest : (items.flatMap fun item => if chosen = item then become item else []) = [] := by
          refine List.flatMap_eq_nil_iff.mpr fun item known => if_neg ?_
          rintro rfl
          exact fresh known
        rw [if_pos rfl, rest, List.append_nil]
      · have other : chosen ≠ item := fun same => fresh (same ▸ there)
        rw [if_neg other, List.nil_append, induction later there]

/-- Of the items in a group only the first that passes a test becomes anything. -/
theorem flatMap_find? [DecidableEq α] {items : List α} {test group : α → Bool}
    (nodup : items.Nodup) (inside : ∀ item, test item = true → group item = true)
    (become : α → List β) :
    ((items.filter group).flatMap fun item =>
        if items.find? test = some item then become item else []) =
      (items.find? test).toList.flatMap become := by
  cases found : items.find? test with
  | none => exact List.flatMap_eq_nil_iff.mpr fun _ _ => if_neg (by simp)
  | some first =>
      have member : first ∈ items.filter group :=
        List.mem_filter.mpr ⟨List.mem_of_find?_eq_some found, inside first (List.find?_some found)⟩
      simp only [Option.some.injEq, Option.toList_some, List.flatMap_singleton]
      exact flatMap_single (nodup.filter _) member become

/-- Where nothing comes out twice, what comes out tells the item. -/
theorem eq_of_nodup_flatMap {items : List α} {become : α → List β}
    (nodup : (items.flatMap become).Nodup) {one other : α} (oneMember : one ∈ items)
    (otherMember : other ∈ items) {result : β} (here : result ∈ become one)
    (there : result ∈ become other) : one = other := by
  have symmetric : Std.Symm fun one other => (become one).Disjoint (become other) :=
    ⟨fun _ _ disjoint _ here there => disjoint there here⟩
  by_contra different
  exact (List.nodup_flatMap.mp nodup).2.forall oneMember otherMember different here there

/-- Working off distinct items by their keys. -/
theorem perm_flatMap_groups [DecidableEq κ] {keys : List κ} {items : List α} (key : α → κ)
    (nodup : keys.Nodup) (distinct : items.Nodup) (covered : ∀ item ∈ items, key item ∈ keys)
    (become : α → List β) :
    (keys.flatMap fun chosen => (items.filter fun item => key item = chosen).flatMap become).Perm
      (items.flatMap become) := by
  rw [← List.flatMap_assoc]
  refine List.Perm.flatMap_right become ((List.perm_ext_iff_of_nodup ?_ distinct).mpr fun item => ?_)
  · refine List.nodup_flatMap.mpr ⟨fun chosen _ => distinct.filter _, nodup.imp ?_⟩
    intro one other different item here there
    have first := of_decide_eq_true (List.mem_filter.mp here).2
    exact different (first.symm.trans (of_decide_eq_true (List.mem_filter.mp there).2))
  · constructor
    · intro member
      obtain ⟨_, _, inside⟩ := List.mem_flatMap.mp member
      exact List.mem_of_mem_filter inside
    · intro member
      exact List.mem_flatMap.mpr
        ⟨key item, covered item member, List.mem_filter.mpr ⟨member, decide_eq_true rfl⟩⟩

end Library
