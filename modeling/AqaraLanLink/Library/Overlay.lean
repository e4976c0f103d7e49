import Mathlib.Data.List.Induction

/-!
# Overlays

A view gives some of the keys a value.  Entries of a history speak of some of the keys each, and what
an entry says is laid over what the view showed before.  What is shown of a key in the end is what
the latest entry that speaks of it says.
-/

namespace Library

universe u v w

variable {κ : Type u} {ν : Type v} {ε : Type w}

/-- What is shown once `patch` has been laid over a view. -/
def overlay (view patch : κ → Option ν) : κ → Option ν := fun key => (patch key).or (view key)

theorem overlay_of_silent {view patch : κ → Option ν} {key : κ} (silent : patch key = none) :
    overlay view patch key = view key := by
  rw [overlay, silent, Option.none_or]

theorem overlay_of_some {view patch : κ → Option ν} {key : κ} {value : ν}
    (tells : patch key = some value) : overlay view patch key = some value := by
  rw [overlay, tells, Option.some_or]

/-- A patch that speaks of all that a view shows hides the view. -/
theorem overlay_of_covers {view patch : κ → Option ν}
    (covers : ∀ key, (view key).isSome = true → (patch key).isSome = true) :
    overlay view patch = patch := by
  funext key
  rw [overlay]
  cases told : patch key with
  | some value => rfl
  | none =>
      cases shown : view key with
      | none => rfl
      | some value =>
          have spoken := covers key (by rw [shown]; rfl)
          rw [told] at spoken
          cases spoken

/-- Lay the entries of a history over a view, one after the other. -/
def overlayAll (tells : ε → κ → Option ν) (view : κ → Option ν) (entries : List ε) : κ → Option ν :=
  entries.foldl (fun view entry => overlay view (tells entry)) view

/-- The latest entry that speaks of a key. -/
def latest (tells : ε → κ → Option ν) (entries : List ε) (key : κ) : Option ε :=
  entries.reverse.find? fun entry => (tells entry key).isSome

variable {tells : ε → κ → Option ν} {view : κ → Option ν} {entries later : List ε} {entry : ε}
  {key : κ}

@[simp] theorem overlayAll_nil : overlayAll tells view [] = view := rfl

theorem overlayAll_append :
    overlayAll tells view (entries ++ later) = overlayAll tells (overlayAll tells view entries) later :=
  List.foldl_append

theorem overlayAll_concat :
    overlayAll tells view (entries ++ [entry]) =
      overlay (overlayAll tells view entries) (tells entry) :=
  overlayAll_append

@[simp] theorem latest_nil : latest tells [] key = none := rfl

theorem latest_append :
    latest tells (entries ++ later) key = (latest tells later key).or (latest tells entries key) := by
  rw [latest, List.reverse_append, List.find?_append]
  rfl

theorem latest_concat_of_silent (silent : tells entry key = none) :
    latest tells (entries ++ [entry]) key = latest tells entries key := by
  simp [latest, silent]

theorem latest_concat_of_some {value : ν} (told : tells entry key = some value) :
    latest tells (entries ++ [entry]) key = some entry := by
  simp [latest, told]

theorem mem_of_latest (found : latest tells entries key = some entry) : entry ∈ entries :=
  List.mem_reverse.mp (List.mem_of_find?_eq_some found)

theorem tells_of_latest (found : latest tells entries key = some entry) :
    (tells entry key).isSome = true := by
  have speaks := List.find?_some found
  exact speaks

theorem exists_latest (member : entry ∈ entries) (speaks : (tells entry key).isSome = true) :
    ∃ last, latest tells entries key = some last := by
  rw [← Option.isSome_iff_exists, latest, List.find?_isSome]
  exact ⟨entry, List.mem_reverse.mpr member, speaks⟩

/-- Relabelling the entries without changing what they say relabels the latest one. -/
theorem latest_map {relabel : ε → ε} (same : ∀ entry, tells (relabel entry) = tells entry) :
    latest tells (entries.map relabel) key = (latest tells entries key).map relabel := by
  rw [latest, latest, ← List.map_reverse, List.find?_map]
  congr 1
  simp only [Function.comp_def, same]

theorem overlayAll_map {δ : Type w} {label : δ → ε} {entries : List δ} :
    overlayAll tells view (entries.map label) =
      overlayAll (fun entry => tells (label entry)) view entries :=
  List.foldl_map

/-- What is shown of a key is what the latest entry that speaks of it says. -/
theorem overlayAll_apply :
    overlayAll tells view entries key =
      ((latest tells entries key).bind fun entry => tells entry key).or (view key) := by
  induction entries using List.reverseRecOn with
  | nil => rfl
  | append_singleton entries entry induction =>
      rw [overlayAll_concat]
      cases told : tells entry key with
      | none => rw [overlay_of_silent told, latest_concat_of_silent told, induction]
      | some value => rw [overlay_of_some told, latest_concat_of_some told, Option.bind_some, told,
          Option.some_or]

/-- Entries that say nothing which later ones do not say again leave no trace. -/
theorem overlayAll_append_of_silent
    (silent : latest tells later key = none → latest tells entries key = none) :
    overlayAll tells view (entries ++ later) key = overlayAll tells view later key := by
  rw [overlayAll_apply, overlayAll_apply, latest_append]
  cases found : latest tells later key with
  | some last => rfl
  | none => rw [silent found, Option.none_or]

/-- What the latest entry says is shown when no later one speaks of the key. -/
theorem overlayAll_append_of_last (silent : latest tells later key = none)
    (found : latest tells entries key = some entry) :
    overlayAll tells view (entries ++ later) key = tells entry key := by
  obtain ⟨value, told⟩ := Option.isSome_iff_exists.mp (tells_of_latest found)
  rw [overlayAll_apply, latest_append, silent, Option.none_or, found, Option.bind_some, told,
    Option.some_or]

/-- What some entry speaks of is shown. -/
theorem overlayAll_isSome (found : latest tells entries key = some entry) :
    (overlayAll tells view entries key).isSome = true := by
  obtain ⟨value, told⟩ := Option.isSome_iff_exists.mp (tells_of_latest found)
  rw [overlayAll_apply, found, Option.bind_some, told]
  rfl

/-- Entries can be left out as long as the latest one that speaks of the key is kept. -/
theorem overlayAll_filter {keep : ε → Bool}
    (kept : ∀ entry, latest tells entries key = some entry → keep entry = true) :
    overlayAll tells view (entries.filter keep) key = overlayAll tells view entries key := by
  induction entries using List.reverseRecOn with
  | nil => rfl
  | append_singleton entries entry induction =>
      rw [List.filter_append, overlayAll_append, overlayAll_concat]
      cases told : tells entry key with
      | none =>
          rw [overlay_of_silent told]
          have before := induction fun other found =>
            kept other ((latest_concat_of_silent told).trans found)
          cases keeps : keep entry with
          | true =>
              rw [List.filter_cons_of_pos keeps, List.filter_nil, ← before]
              exact overlay_of_silent told
          | false =>
              rw [List.filter_cons_of_neg (by simp [keeps]), List.filter_nil, ← before]
              rfl
      | some value =>
          rw [List.filter_cons_of_pos (kept entry (latest_concat_of_some told)), List.filter_nil,
            overlay_of_some told]
          exact overlay_of_some told

end Library
