import AqaraLanLink.Library.Scanner

/-!
# Regular expressions that are tried in order

A backtracking matcher tries the alternatives of a pattern in their order and takes the longest run
first.  What can be left of a text once a pattern has matched is the list of the rests, in the order
in which the matcher comes to them; the first one is what it settles for.
-/

namespace Library

universe u

/-- A pattern over letters. -/
inductive Pattern (α : Type u) where
  /-- A letter of a class. -/
  | one (letters : α → Bool)
  /-- Any number of letters of a class, the more the better. -/
  | many (letters : α → Bool)
  /-- One pattern after the other. -/
  | seq (first second : Pattern α)
  /-- Either pattern, the first one first. -/
  | alt (first second : Pattern α)
  /-- The pattern would match here. -/
  | ahead (pattern : Pattern α)
  /-- The pattern would not match here. -/
  | notAhead (pattern : Pattern α)

namespace Pattern

variable {α : Type u}

/-- At least one letter of a class. -/
def plus (letters : α → Bool) : Pattern α := .seq (.one letters) (.many letters)

/-- What is left of a text after a run of letters of a class, the longest run first. -/
def runs (letters : α → Bool) : List α → List (List α)
  | [] => [[]]
  | letter :: text =>
      if letters letter then runs letters text ++ [letter :: text] else [letter :: text]

/-- What is left of a text after a letter of a class. -/
def tails (letters : α → Bool) : List α → List (List α)
  | [] => []
  | letter :: text => if letters letter then [text] else []

/-- What can be left of a text once the pattern has matched at its head. -/
def rests : Pattern α → List α → List (List α)
  | .one letters, text => tails letters text
  | .many letters, text => runs letters text
  | .seq first second, text => (rests first text).flatMap (rests second)
  | .alt first second, text => rests first text ++ rests second text
  | .ahead pattern, text => if (rests pattern text).isEmpty then [] else [text]
  | .notAhead pattern, text => if (rests pattern text).isEmpty then [text] else []

/-- A match that is not empty is taken. -/
def verdict (pattern : Pattern α) (text : List α) : Scanner.Verdict :=
  match (pattern.rests text).head? with
  | some rest =>
      if rest.length < text.length then .take (text.length - rest.length) else .skip
  | none => .skip

/-- All matches that do not overlap, from left to right.  The pattern is one that does not match the
empty text. -/
def findAll (pattern : Pattern α) (text : List α) : List (List α) :=
  Scanner.records pattern.verdict text

theorem sound_verdict (pattern : Pattern α) : Scanner.Sound pattern.verdict := by
  intro text length takes
  rw [verdict] at takes
  split at takes
  · split at takes
    · obtain rfl := Scanner.Verdict.take.inj takes
      omega
    · cases takes
  · cases takes

/-! ## Runs -/

variable {letters : α → Bool} {word text rest : List α}

/-- No run goes on into the rest. -/
def Stops (letters : α → Bool) (rest : List α) : Prop :=
  ∀ letter ∈ rest.head?, letters letter = false

theorem stops_cons {letter : α} (other : letters letter = false) :
    Stops letters (letter :: text) := by
  intro same here
  cases here
  exact other

theorem runs_cons (letters : α → Bool) (letter : α) (text : List α) :
    runs letters (letter :: text) =
      if letters letter then runs letters text ++ [letter :: text] else [letter :: text] := rfl

theorem runs_of_stops (stops : Stops letters rest) : runs letters rest = [rest] := by
  cases rest with
  | nil => rfl
  | cons letter text => rw [runs_cons, if_neg (by simp [stops letter rfl])]

/-- A text begins with a run, which may be empty. -/
theorem exists_run (letters : α → Bool) (text : List α) :
    ∃ word rest, text = word ++ rest ∧ (∀ letter ∈ word, letters letter) ∧ Stops letters rest := by
  refine ⟨text.takeWhile letters, text.dropWhile letters, List.takeWhile_append_dropWhile.symm,
    fun letter member => List.all_eq_true.mp List.all_takeWhile letter member, ?_⟩
  intro letter first
  have stops := List.head?_dropWhile_not letters text
  rw [Option.mem_def.mp first] at stops
  exact stops

theorem takeWhile_run (all : ∀ letter ∈ word, letters letter) (stops : Stops letters rest) :
    (word ++ rest).takeWhile letters = word := by
  rw [List.takeWhile_append_of_pos all]
  cases rest with
  | nil => rw [List.takeWhile_nil, List.append_nil]
  | cons letter rest =>
      rw [List.takeWhile_cons_of_neg (by simp [stops letter rfl]), List.append_nil]

/-- The longest run comes first. -/
theorem head?_runs (all : ∀ letter ∈ word, letters letter) (stops : Stops letters rest) :
    (runs letters (word ++ rest)).head? = some rest := by
  induction word with
  | nil => rw [List.nil_append, runs_of_stops stops, List.head?_cons]
  | cons letter word induction =>
      obtain ⟨here, later⟩ := List.forall_mem_cons.mp all
      rw [List.cons_append, runs_cons, if_pos here, List.head?_append, induction later, Option.some_or]

/-- A run ends inside the letters, or where they do. -/
theorem exists_of_mem_runs (stops : Stops letters rest) {left : List α}
    (member : left ∈ runs letters (word ++ rest)) : ∃ taken more, word = taken ++ more ∧
      left = more ++ rest := by
  induction word with
  | nil =>
      rw [List.nil_append, runs_of_stops stops, List.mem_singleton] at member
      exact ⟨[], [], rfl, member⟩
  | cons letter word induction =>
      rw [List.cons_append, runs_cons] at member
      split at member
      · rcases List.mem_append.mp member with longer | whole
        · obtain ⟨taken, more, split, same⟩ := induction longer
          exact ⟨letter :: taken, more, by rw [split, List.cons_append], same⟩
        · exact ⟨[], letter :: word, rfl, List.mem_singleton.mp whole⟩
      · exact ⟨[], letter :: word, rfl, List.mem_singleton.mp member⟩

/-- What a run takes are letters of its class. -/
theorem exists_letters_of_mem_runs {left : List α} (member : left ∈ runs letters text) :
    ∃ taken, text = taken ++ left ∧ ∀ letter ∈ taken, letters letter := by
  induction text with
  | nil =>
      obtain rfl := List.mem_singleton.mp member
      exact ⟨[], rfl, fun _ none => absurd none List.not_mem_nil⟩
  | cons letter text induction =>
      rw [runs_cons] at member
      split at member
      · next here =>
        rcases List.mem_append.mp member with longer | whole
        · obtain ⟨taken, split, all⟩ := induction longer
          exact ⟨letter :: taken, by rw [split, List.cons_append],
            List.forall_mem_cons.mpr ⟨here, all⟩⟩
        · exact ⟨[], (List.mem_singleton.mp whole).symm, fun _ none => absurd none List.not_mem_nil⟩
      · exact ⟨[], (List.mem_singleton.mp member).symm, fun _ none => absurd none List.not_mem_nil⟩

/-! ## Rests -/

theorem rests_one_cons (letters : α → Bool) (letter : α) (text : List α) :
    rests (.one letters) (letter :: text) = if letters letter then [text] else [] := rfl

theorem rests_many (letters : α → Bool) (text : List α) :
    rests (.many letters) text = runs letters text := rfl

theorem rests_seq (first second : Pattern α) (text : List α) :
    rests (.seq first second) text = (rests first text).flatMap (rests second) := rfl

theorem rests_alt (first second : Pattern α) (text : List α) :
    rests (.alt first second) text = rests first text ++ rests second text := rfl

theorem rests_ahead (pattern : Pattern α) (text : List α) :
    rests (.ahead pattern) text = if (rests pattern text).isEmpty then [] else [text] := rfl

theorem rests_notAhead (pattern : Pattern α) (text : List α) :
    rests (.notAhead pattern) text = if (rests pattern text).isEmpty then [text] else [] := rfl

theorem mem_rests_one {left : List α} :
    left ∈ rests (.one letters) text ↔ ∃ letter, text = letter :: left ∧ letters letter := by
  cases text with
  | nil =>
      constructor
      · exact fun member => absurd member List.not_mem_nil
      · rintro ⟨letter, split, -⟩
        cases split
  | cons letter text =>
      by_cases here : letters letter
      · rw [rests_one_cons, if_pos here, List.mem_singleton]
        constructor
        · rintro rfl
          exact ⟨letter, rfl, here⟩
        · rintro ⟨other, same, -⟩
          exact (List.cons.inj same).2.symm
      · rw [rests_one_cons, if_neg here]
        constructor
        · exact fun member => absurd member List.not_mem_nil
        · rintro ⟨other, same, there⟩
          cases same
          exact absurd there here

theorem rests_one_eq_nil (stops : Stops letters text) : rests (.one letters) text = [] := by
  cases text with
  | nil => rfl
  | cons letter text => rw [rests_one_cons, if_neg (by simp [stops letter rfl])]

/-- A run of at least one letter takes all of them first. -/
theorem head?_rests_plus (nonempty : word ≠ []) (all : ∀ letter ∈ word, letters letter)
    (stops : Stops letters rest) : ((plus letters).rests (word ++ rest)).head? = some rest := by
  cases word with
  | nil => exact absurd rfl nonempty
  | cons letter word =>
      obtain ⟨here, later⟩ := List.forall_mem_cons.mp all
      rw [List.cons_append, plus, rests_seq, rests_one_cons, if_pos here, List.flatMap_singleton,
        rests_many]
      exact head?_runs later stops

theorem rests_plus_eq_nil (stops : Stops letters text) : (plus letters).rests text = [] := by
  rw [plus, rests_seq, rests_one_eq_nil stops, List.flatMap_nil]

theorem exists_of_mem_rests_plus (stops : Stops letters rest) {left : List α}
    (member : left ∈ (plus letters).rests (word ++ rest)) :
    ∃ taken more, taken ≠ [] ∧ word = taken ++ more ∧ left = more ++ rest := by
  obtain ⟨middle, first, second⟩ := List.mem_flatMap.mp member
  obtain ⟨letter, split, here⟩ := mem_rests_one.mp first
  cases word with
  | nil =>
      rw [List.nil_append] at split
      have none := stops letter (by rw [split]; rfl)
      rw [here] at none
      cases none
  | cons other word =>
      obtain ⟨rfl, rfl⟩ := List.cons.inj split
      obtain ⟨taken, more, whole, same⟩ := exists_of_mem_runs stops second
      exact ⟨other :: taken, more, List.cons_ne_nil _ _, by rw [whole, List.cons_append], same⟩

theorem exists_letters_of_mem_rests_plus {left : List α}
    (member : left ∈ (plus letters).rests text) :
    ∃ taken, taken ≠ [] ∧ text = taken ++ left ∧ ∀ letter ∈ taken, letters letter := by
  obtain ⟨middle, first, second⟩ := List.mem_flatMap.mp member
  obtain ⟨letter, rfl, here⟩ := mem_rests_one.mp first
  obtain ⟨taken, rfl, all⟩ := exists_letters_of_mem_runs second
  exact ⟨letter :: taken, List.cons_ne_nil _ _, List.cons_append.symm,
    List.forall_mem_cons.mpr ⟨here, all⟩⟩

/-- Letters are given back, one after the other, until the next pattern matches. -/
theorem head?_flatMap_runs {next : Pattern α} {taken more found : List α}
    (all : ∀ letter ∈ taken ++ more, letters letter) (stops : Stops letters rest)
    (fails : ∀ shorter, shorter <:+ more → shorter ≠ more → next.rests (shorter ++ rest) = [])
    (stands : (next.rests (more ++ rest)).head? = some found) :
    ((runs letters (taken ++ more ++ rest)).flatMap next.rests).head? = some found := by
  induction taken with
  | nil =>
      cases more with
      | nil => rwa [List.nil_append, List.nil_append, runs_of_stops stops, List.flatMap_singleton]
      | cons letter more =>
          have here := all letter List.mem_cons_self
          have none : (runs letters (more ++ rest)).flatMap next.rests = [] := by
            apply List.flatMap_eq_nil_iff.mpr
            intro left member
            obtain ⟨given, shorter, split, rfl⟩ := exists_of_mem_runs stops member
            have suffix : shorter <:+ more := ⟨given, split.symm⟩
            apply fails shorter (suffix.trans (List.suffix_cons letter more))
            rintro rfl
            have longer := suffix.length_le
            rw [List.length_cons] at longer
            omega
          rw [List.nil_append, List.cons_append, runs_cons, if_pos here, List.flatMap_append, none,
            List.nil_append, List.flatMap_singleton]
          exact stands
  | cons letter taken induction =>
      obtain ⟨here, later⟩ := List.forall_mem_cons.mp all
      rw [List.cons_append, List.cons_append, runs_cons, if_pos here, List.flatMap_append,
        List.head?_append, induction later, Option.some_or]

theorem head?_rests_seq_plus {next : Pattern α} {taken more found : List α} (nonempty : taken ≠ [])
    (all : ∀ letter ∈ taken ++ more, letters letter) (stops : Stops letters rest)
    (fails : ∀ shorter, shorter <:+ more → shorter ≠ more → next.rests (shorter ++ rest) = [])
    (stands : (next.rests (more ++ rest)).head? = some found) :
    ((seq (plus letters) next).rests (taken ++ more ++ rest)).head? = some found := by
  cases taken with
  | nil => exact absurd rfl nonempty
  | cons letter taken =>
      obtain ⟨here, later⟩ := List.forall_mem_cons.mp all
      rw [List.cons_append, List.cons_append, rests_seq, plus, rests_seq, rests_one_cons,
        if_pos here, List.flatMap_singleton, rests_many]
      exact head?_flatMap_runs later stops fails stands

/-- The next pattern matches behind the whole run. -/
theorem head?_rests_seq_plus_of_head? {next : Pattern α} {found : List α} (nonempty : word ≠ [])
    (all : ∀ letter ∈ word, letters letter) (stops : Stops letters rest)
    (stands : (next.rests rest).head? = some found) :
    ((seq (plus letters) next).rests (word ++ rest)).head? = some found := by
  have given : ((seq (plus letters) next).rests (word ++ [] ++ rest)).head? = some found := by
    apply head?_rests_seq_plus nonempty (by rwa [List.append_nil]) stops ?_ stands
    intro shorter suffix other
    exact absurd (List.suffix_nil.mp suffix) other
  rwa [List.append_nil] at given

/-- When the next pattern matches after no part of the run, all letters are given back. -/
theorem rests_seq_plus_eq_nil {next : Pattern α} (stops : Stops letters rest)
    (fails : ∀ shorter, shorter <:+ word → shorter ≠ word → next.rests (shorter ++ rest) = []) :
    (seq (plus letters) next).rests (word ++ rest) = [] := by
  rw [rests_seq, List.flatMap_eq_nil_iff]
  intro left member
  obtain ⟨taken, more, some, rfl, rfl⟩ := exists_of_mem_rests_plus stops member
  apply fails more (List.suffix_append taken more)
  intro same
  exact some (List.append_left_eq_self.mp same.symm)

theorem eq_of_mem_rests_ahead {pattern : Pattern α} {left : List α}
    (member : left ∈ (ahead pattern).rests text) : left = text := by
  rw [rests_ahead] at member
  split at member
  · exact absurd member List.not_mem_nil
  · exact List.mem_singleton.mp member

theorem eq_of_mem_rests_notAhead {pattern : Pattern α} {left : List α}
    (member : left ∈ (notAhead pattern).rests text) : left = text := by
  rw [rests_notAhead] at member
  split at member
  · exact List.mem_singleton.mp member
  · exact absurd member List.not_mem_nil

/-- What is left is the end of the text. -/
theorem suffix_of_mem_rests {pattern : Pattern α} {left : List α}
    (member : left ∈ pattern.rests text) : left <:+ text := by
  induction pattern generalizing text left with
  | one letters =>
      obtain ⟨letter, rfl, -⟩ := mem_rests_one.mp member
      exact List.suffix_cons letter left
  | many letters =>
      obtain ⟨taken, rfl, -⟩ := exists_letters_of_mem_runs member
      exact List.suffix_append taken left
  | seq first second firstly secondly =>
      obtain ⟨middle, there, later⟩ := List.mem_flatMap.mp member
      exact (secondly later).trans (firstly there)
  | alt first second firstly secondly =>
      rcases List.mem_append.mp member with there | there
      · exact firstly there
      · exact secondly there
  | ahead pattern _ =>
      obtain rfl := eq_of_mem_rests_ahead member
      exact List.suffix_refl left
  | notAhead pattern _ =>
      obtain rfl := eq_of_mem_rests_notAhead member
      exact List.suffix_refl left

/-! ## All matches -/

theorem verdict_of_head? {pattern : Pattern α} (nonempty : word ≠ [])
    (found : (pattern.rests (word ++ rest)).head? = some rest) :
    pattern.verdict (word ++ rest) = .take word.length := by
  have longer : 0 < word.length := List.length_pos_iff.mpr nonempty
  rw [verdict, found]
  simp only [List.length_append]
  rw [if_pos (by omega), Nat.add_sub_cancel]

theorem findAll_nil (pattern : Pattern α) : pattern.findAll [] = [] := rfl

theorem findAll_of_rests_eq_nil {pattern : Pattern α} {letter : α}
    (none : pattern.rests (letter :: text) = []) :
    pattern.findAll (letter :: text) = pattern.findAll text := by
  have skips : pattern.verdict (letter :: text) = .skip := by rw [verdict, none, List.head?_nil]
  exact Scanner.records_of_skip pattern.sound_verdict skips

theorem findAll_of_head? {pattern : Pattern α} (nonempty : word ≠ [])
    (found : (pattern.rests (word ++ rest)).head? = some rest) :
    pattern.findAll (word ++ rest) = word :: pattern.findAll rest := by
  have takes := verdict_of_head? nonempty found
  rw [findAll, Scanner.records_of_take pattern.sound_verdict takes, List.take_left, List.drop_left,
    findAll]

/-- What holds of a match wherever it is found holds of all that are found. -/
theorem forall_mem_findAll {pattern : Pattern α} {holds : List α → Prop}
    (each : ∀ word rest, word ≠ [] → rest ∈ pattern.rests (word ++ rest) → holds word)
    (text : List α) :
    ∀ word ∈ pattern.findAll text, holds word := by
  have found : ∀ place, ∀ record ∈ Scanner.scan pattern.verdict text place 0, holds record.2 := by
    intro place
    induction text, place using Scanner.scan_induction pattern.sound_verdict with
    | nil place => exact fun _ none => absurd none List.not_mem_nil
    | stop text place stops =>
        rw [Scanner.scan_of_stop stops]
        exact fun _ none => absurd none List.not_mem_nil
    | skip head tail place skips induction =>
        rw [Scanner.scan_of_skip skips]
        exact induction
    | take text place length takes positive inside induction =>
        rw [Scanner.scan_of_take pattern.sound_verdict takes]
        refine List.forall_mem_cons.mpr ⟨?_, induction⟩
        rw [verdict] at takes
        split at takes
        · next rest first =>
          split at takes
          · next shorter =>
            obtain rfl := Scanner.Verdict.take.inj takes
            have member := List.mem_of_mem_head? first
            obtain ⟨word, rfl⟩ := suffix_of_mem_rests member
            rw [List.length_append, Nat.add_sub_cancel, List.take_left]
            refine each word rest ?_ member
            rintro rfl
            exact absurd shorter (Nat.lt_irrefl _)
          · cases takes
        · cases takes
  intro word member
  obtain ⟨record, there, rfl⟩ := List.mem_map.mp member
  exact found 0 record there

/-- Words that are matched up to the separators between them are found again. -/
theorem findAll_intercalate {pattern : Pattern α} {separator : α}
    (separates : ∀ rest, pattern.rests (separator :: rest) = []) {words : List (List α)}
    (matched : ∀ word ∈ words, word ≠ [] ∧ ∀ rest, (∀ letter ∈ rest.head?, letter = separator) →
      (pattern.rests (word ++ rest)).head? = some rest) :
    pattern.findAll ([separator].intercalate words) = words := by
  induction words with
  | nil => rfl
  | cons word words induction =>
      obtain ⟨⟨nonempty, stands⟩, others⟩ := List.forall_mem_cons.mp matched
      cases words with
      | nil =>
          have found := findAll_of_head? nonempty (stands [] (by simp))
          rw [List.append_nil] at found
          rw [List.intercalate_singleton, found, findAll_nil]
      | cons other words =>
          rw [List.intercalate_cons_cons, List.append_assoc, List.singleton_append,
            findAll_of_head? nonempty (stands _ (by simp)),
            findAll_of_rests_eq_nil (separates _), induction others]

end Pattern
end Library
