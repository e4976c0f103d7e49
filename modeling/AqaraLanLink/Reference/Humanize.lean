import AqaraLanLink.Library.AsciiCase
import AqaraLanLink.Library.Regex
import AqaraLanLink.Reference.GapReport

/-!
# Display names

`device/humanize.py`: the regular expression that cuts a name into words, the words that it finds,
and the names that are read as they were written.
-/

namespace AqaraLanLink
namespace Reference
namespace Humanize

open Library Pattern AsciiCase

/-! ## The regular expression -/

/-- `\d`. -/
def isDecimalDigit (char : Char) : Bool := (decimalValue char).isSome

/-- `[A-Z]+(?=[A-Z][a-z])`. -/
def acronymBeforeWord : Pattern Char :=
  .seq (.plus Char.isUpper) (.ahead (.seq (.one Char.isUpper) (.one Char.isLower)))

/-- `[A-Z]+(?![a-z])`. -/
def capitalRun : Pattern Char := .seq (.plus Char.isUpper) (.notAhead (.one Char.isLower))

/-- `[A-Z][a-z]*`. -/
def titleWord : Pattern Char := .seq (.one Char.isUpper) (.many Char.isLower)

/-- `_TOKEN_RE`. -/
def tokenRe : Pattern Char :=
  .alt acronymBeforeWord
    (.alt capitalRun (.alt titleWord (.alt (.plus Char.isLower) (.plus isDecimalDigit))))

variable {word lowers text rest : List Char} {char first last : Char}

/-! ## The classes of characters -/

/-- A decimal digit is one of ASCII or lies behind all of ASCII. -/
theorem bounds_of_isDecimalDigit (digit : isDecimalDigit char) :
    48 ≤ char.toNat ∧ (char.toNat < 58 ∨ 128 ≤ char.toNat) := by
  rw [isDecimalDigit, decimalValue, Option.isSome_map] at digit
  obtain ⟨start, found⟩ := Option.isSome_iff_exists.mp digit
  have inside : start ≤ char.toNat ∧ char.toNat < start + 10 := by
    simpa using List.find?_some found
  have starts : ∀ start ∈ decimalZeros, start = 48 ∨ 128 ≤ start := by decide
  rcases starts start (List.mem_of_find?_eq_some found) with ascii | other
  · omega
  · omega

theorem not_isUpper_of_isDecimalDigit (digit : isDecimalDigit char) : char.isUpper = false := by
  have there := bounds_of_isDecimalDigit digit
  refine Bool.eq_false_iff.mpr fun upper => ?_
  have here := isUpper_iff.mp upper
  omega

theorem not_isLower_of_isDecimalDigit (digit : isDecimalDigit char) : char.isLower = false := by
  have there := bounds_of_isDecimalDigit digit
  refine Bool.eq_false_iff.mpr fun lower => ?_
  have here := isLower_iff.mp lower
  omega

theorem not_isDecimalDigit_space : isDecimalDigit ' ' = false := by
  refine Bool.eq_false_iff.mpr fun digit => ?_
  have there := (bounds_of_isDecimalDigit digit).1
  have space : ' '.toNat = 32 := rfl
  omega

/-! ## What is matched first -/

theorem rests_ahead_eq_nil (stops : Stops Char.isUpper text) :
    (ahead (.seq (.one Char.isUpper) (.one Char.isLower))).rests text = [] := by
  rw [rests_ahead, rests_seq, rests_one_eq_nil stops, List.flatMap_nil, List.isEmpty_nil, if_pos rfl]

theorem rests_ahead_cons (stops : Stops Char.isLower text) :
    (ahead (.seq (.one Char.isUpper) (.one Char.isLower))).rests (char :: text) = [] := by
  have none : (Pattern.seq (.one Char.isUpper) (.one Char.isLower)).rests (char :: text) = [] := by
    rw [rests_seq, List.flatMap_eq_nil_iff]
    intro left member
    obtain ⟨upper, same, -⟩ := mem_rests_one.mp member
    rw [← (List.cons.inj same).2]
    exact rests_one_eq_nil stops
  rw [rests_ahead, none, List.isEmpty_nil, if_pos rfl]

theorem rests_notAhead_eq (stops : Stops Char.isLower text) :
    (notAhead (.one Char.isLower)).rests text = [text] := by
  rw [rests_notAhead, rests_one_eq_nil stops, List.isEmpty_nil, if_pos rfl]

theorem rests_notAhead_eq_nil (lower : char.isLower) :
    (notAhead (.one Char.isLower)).rests (char :: text) = [] := by
  rw [rests_notAhead, rests_one_cons, if_pos lower, List.isEmpty_cons, if_neg Bool.false_ne_true]

/-- A text that does not begin with a capital. -/
theorem rests_of_stops_upper (stops : Stops Char.isUpper text) :
    tokenRe.rests text = (plus Char.isLower).rests text ++ (plus isDecimalDigit).rests text := by
  simp only [tokenRe, acronymBeforeWord, capitalRun, titleWord, rests_alt, rests_seq,
    rests_plus_eq_nil stops, rests_one_eq_nil stops, List.flatMap_nil, List.nil_append]

/-- A run of capitals that no small letter follows. -/
theorem head?_capitals (nonempty : word ≠ []) (all : ∀ char ∈ word, char.isUpper)
    (ends : Stops Char.isUpper rest) (small : Stops Char.isLower rest) :
    (tokenRe.rests (word ++ rest)).head? = some rest := by
  have before : acronymBeforeWord.rests (word ++ rest) = [] := by
    refine rests_seq_plus_eq_nil ends fun shorter suffix _ => ?_
    cases shorter with
    | nil => exact rests_ahead_eq_nil ends
    | cons char shorter =>
        refine rests_ahead_cons ?_
        cases shorter with
        | nil => exact small
        | cons other shorter =>
            have member : other ∈ char :: other :: shorter :=
              List.mem_cons_of_mem char List.mem_cons_self
            exact stops_cons (isLower_eq_false (all other (suffix.subset member)))
  have run : (capitalRun.rests (word ++ rest)).head? = some rest := by
    refine head?_rests_seq_plus_of_head? nonempty all ends ?_
    rw [rests_notAhead_eq small, List.head?_cons]
  rw [tokenRe, rests_alt, before, List.nil_append, rests_alt, List.head?_append, run,
    Option.some_or]

/-- A run of capitals that a small letter follows gives its last capital back. -/
theorem head?_acronym (nonempty : word ≠ []) (all : ∀ char ∈ word ++ [last], char.isUpper)
    (small : first.isLower) :
    (tokenRe.rests (word ++ last :: first :: rest)).head? = some (last :: first :: rest) := by
  have upper : last.isUpper := all last List.mem_concat_self
  have ends : Stops Char.isUpper (first :: rest) := stops_cons (isUpper_eq_false small)
  have before : (acronymBeforeWord.rests (word ++ [last] ++ first :: rest)).head? =
      some (last :: first :: rest) := by
    refine head?_rests_seq_plus nonempty all ends ?_ ?_
    · intro shorter suffix other
      rcases List.suffix_cons_iff.mp suffix with same | inside
      · exact absurd same other
      · rw [List.suffix_nil.mp inside]
        exact rests_ahead_eq_nil ends
    · have found : (Pattern.seq (.one Char.isUpper) (.one Char.isLower)).rests
          (last :: first :: rest) = [rest] := by
        rw [rests_seq, rests_one_cons, if_pos upper, List.flatMap_singleton, rests_one_cons,
          if_pos small]
      rw [List.singleton_append, rests_ahead, found, List.isEmpty_cons, if_neg Bool.false_ne_true,
        List.head?_cons]
  rw [List.append_assoc, List.singleton_append] at before
  rw [tokenRe, rests_alt, List.head?_append, before, Option.some_or]

/-- A capital with small letters behind it. -/
theorem head?_title (upper : first.isUpper) (nonempty : lowers ≠ [])
    (all : ∀ char ∈ lowers, char.isLower) (ends : Stops Char.isLower rest) :
    (tokenRe.rests (first :: lowers ++ rest)).head? = some rest := by
  obtain ⟨char, others, rfl⟩ := List.exists_cons_of_ne_nil nonempty
  have small : char.isLower := all char List.mem_cons_self
  have stops : Stops Char.isUpper (char :: others ++ rest) := stops_cons (isUpper_eq_false small)
  have single : ∀ {shorter}, shorter <:+ [first] → shorter ≠ [first] → shorter = [] := by
    intro shorter suffix other
    exact List.suffix_nil.mp ((List.suffix_cons_iff.mp suffix).resolve_left other)
  have before : acronymBeforeWord.rests ([first] ++ (char :: others ++ rest)) = [] := by
    refine rests_seq_plus_eq_nil stops fun shorter suffix other => ?_
    rw [single suffix other]
    exact rests_ahead_eq_nil stops
  have run : capitalRun.rests ([first] ++ (char :: others ++ rest)) = [] := by
    refine rests_seq_plus_eq_nil stops fun shorter suffix other => ?_
    rw [single suffix other]
    exact rests_notAhead_eq_nil small
  have title : (titleWord.rests (first :: (char :: others ++ rest))).head? = some rest := by
    rw [titleWord, rests_seq, rests_one_cons, if_pos upper, List.flatMap_singleton,
      rests_many]
    exact head?_runs all ends
  rw [List.singleton_append] at before run
  rw [List.cons_append, tokenRe, rests_alt, before, List.nil_append, rests_alt, run,
    List.nil_append, rests_alt, List.head?_append, title, Option.some_or]

theorem head?_lowers (nonempty : word ≠ []) (all : ∀ char ∈ word, char.isLower)
    (ends : Stops Char.isLower rest) : (tokenRe.rests (word ++ rest)).head? = some rest := by
  have stops : Stops Char.isUpper (word ++ rest) := by
    obtain ⟨char, others, rfl⟩ := List.exists_cons_of_ne_nil nonempty
    exact stops_cons (isUpper_eq_false (all char List.mem_cons_self))
  rw [rests_of_stops_upper stops, List.head?_append, head?_rests_plus nonempty all ends,
    Option.some_or]

theorem head?_digits (nonempty : word ≠ []) (all : ∀ char ∈ word, isDecimalDigit char)
    (ends : Stops isDecimalDigit rest) : (tokenRe.rests (word ++ rest)).head? = some rest := by
  obtain ⟨char, others, rfl⟩ := List.exists_cons_of_ne_nil nonempty
  have digit := all char List.mem_cons_self
  have capital : Stops Char.isUpper (char :: others ++ rest) :=
    stops_cons (not_isUpper_of_isDecimalDigit digit)
  have small : Stops Char.isLower (char :: others ++ rest) :=
    stops_cons (not_isLower_of_isDecimalDigit digit)
  rw [rests_of_stops_upper capital, rests_plus_eq_nil small, List.nil_append]
  exact head?_rests_plus nonempty all ends

/-- Nothing begins with another character. -/
theorem rests_other (upper : char.isUpper = false) (lower : char.isLower = false)
    (digit : isDecimalDigit char = false) : tokenRe.rests (char :: text) = [] := by
  rw [rests_of_stops_upper (stops_cons upper), rests_plus_eq_nil (stops_cons lower),
    rests_plus_eq_nil (stops_cons digit), List.nil_append]

/-! ## The words of a name -/

theorem findAll_acronym (nonempty : word ≠ []) (all : ∀ char ∈ word ++ [last], char.isUpper)
    (small : first.isLower) :
    tokenRe.findAll (word ++ [last] ++ first :: rest) =
      word :: tokenRe.findAll (last :: first :: rest) := by
  rw [List.append_assoc, List.singleton_append]
  exact findAll_of_head? nonempty (head?_acronym nonempty all small)

/-- A text that begins with no letter is read as digits, or its first character is passed over. -/
theorem tokens_digits {bound : ℕ} (upper : Stops Char.isUpper (char :: text))
    (lower : Stops Char.isLower (char :: text)) (long : text.length ≤ bound)
    (agree : ∀ later, later.length ≤ bound → tokens bound later = tokenRe.findAll later) :
    (let digits := (char :: text).takeWhile fun char => (decimalValue char).isSome
      if digits ≠ [] then digits :: tokens bound ((char :: text).drop digits.length)
      else tokens bound text) = tokenRe.findAll (char :: text) := by
  obtain ⟨digits, later, same, digit, stops⟩ := exists_run isDecimalDigit (char :: text)
  have run : (char :: text).takeWhile (fun char => (decimalValue char).isSome) = digits := by
    rw [same]
    exact takeWhile_run digit stops
  dsimp only
  rw [run]
  by_cases number : digits = []
  · subst number
    rw [List.nil_append] at same
    rw [if_neg (not_not_intro rfl), agree text long]
    rw [← same] at stops
    exact (findAll_of_rests_eq_nil (rests_other (upper char rfl) (lower char rfl)
      (stops char rfl))).symm
  · have marked := List.length_pos_iff.mpr number
    have total := congrArg List.length same
    rw [List.length_cons, List.length_append] at total
    rw [if_pos number, same, List.drop_left, agree later (by omega)]
    exact (findAll_of_head? number (head?_digits number digit stops)).symm

/-- A text that begins with a capital is read as a run of capitals, of which the last one may begin
the next word. -/
theorem tokens_capitals {bound : ℕ} {capitals : List Char} (capital : capitals ≠ [])
    (upper : ∀ char ∈ capitals, char.isUpper) (lower : ∀ char ∈ lowers, char.isLower)
    (ends : Stops Char.isUpper (lowers ++ rest)) (stops : Stops Char.isLower rest)
    (long : capitals.length + (lowers.length + rest.length) ≤ bound + 1)
    (agree : ∀ later, later.length ≤ bound → tokens bound later = tokenRe.findAll later) :
    (if lowers = [] then capitals :: tokens bound (lowers ++ rest)
      else if capitals.length = 1 then (capitals ++ lowers) :: tokens bound rest
      else capitals.dropLast ::
        tokens bound ((capitals ++ (lowers ++ rest)).drop (capitals.length - 1))) =
      tokenRe.findAll (capitals ++ (lowers ++ rest)) := by
  have some := List.length_pos_iff.mpr capital
  by_cases small : lowers = []
  · subst small
    rw [List.nil_append] at ends ⊢
    rw [List.length_nil] at long
    rw [if_pos rfl, findAll_of_head? capital (head?_capitals capital upper ends stops),
      agree rest (by omega)]
  · rw [if_neg small]
    by_cases single : capitals.length = 1
    · obtain ⟨first, rfl⟩ := List.length_eq_one_iff.mp single
      have found := head?_title (upper first List.mem_cons_self) small lower stops
      rw [if_pos single, ← List.append_assoc, List.singleton_append,
        findAll_of_head? (List.cons_ne_nil first lowers) found, agree rest (by omega)]
    · obtain ⟨word, last, concat⟩ := (List.eq_nil_or_concat capitals).resolve_left capital
      obtain ⟨first, others, rfl⟩ := List.exists_cons_of_ne_nil small
      rw [List.concat_eq_append] at concat
      have one : capitals.length = word.length + 1 := by
        rw [concat, List.length_append, List.length_singleton]
      have nonempty : word ≠ [] := by
        rw [← List.length_pos_iff]
        omega
      have shorter : (last :: first :: (others ++ rest)).length ≤ bound := by
        rw [List.length_cons] at long
        rw [List.length_cons, List.length_cons, List.length_append]
        omega
      rw [if_neg single, one, Nat.add_sub_cancel, concat, List.dropLast_concat, List.cons_append,
        findAll_acronym nonempty (concat ▸ upper) (lower first List.mem_cons_self),
        List.append_assoc, List.drop_left, List.singleton_append, agree _ shorter]

/-- The tokens are what the regular expression finds. -/
theorem tokens_eq_findAll {bound : ℕ} (long : text.length ≤ bound) :
    tokens bound text = tokenRe.findAll text := by
  induction bound generalizing text with
  | zero =>
      rw [List.length_eq_zero_iff.mp (Nat.le_zero.mp long)]
      rfl
  | succ bound induction =>
      cases text with
      | nil => rfl
      | cons char text =>
          have agree : ∀ later : List Char, later.length ≤ bound →
              tokens bound later = tokenRe.findAll later := fun later => induction
          obtain ⟨capitals, after, split, upper, ends⟩ := exists_run Char.isUpper (char :: text)
          obtain ⟨lowers, rest, rfl, lower, stops⟩ := exists_run Char.isLower after
          have total := congrArg List.length split
          rw [List.length_append, List.length_append] at total
          rw [tokens, split, takeWhile_run upper ends, List.drop_left, takeWhile_run lower stops,
            List.drop_left]
          by_cases capital : capitals = []
          · subst capital
            rw [if_neg (not_not_intro rfl), List.nil_append]
            rw [List.nil_append] at split
            by_cases small : lowers = []
            · subst small
              rw [List.nil_append] at split ends
              rw [← split] at ends stops
              rw [if_neg (not_not_intro rfl), List.nil_append, ← split]
              exact tokens_digits ends stops (Nat.le_of_succ_le_succ long) agree
            · have some := List.length_pos_iff.mpr small
              rw [if_pos small, findAll_of_head? small (head?_lowers small lower stops),
                agree rest (by omega)]
          · rw [if_pos capital]
            exact tokens_capitals capital upper lower ends stops (total ▸ long) agree

/-- What the regular expression takes for a word. -/
inductive Word : List Char → Prop
  | capitals {word : List Char} (nonempty : word ≠ []) (all : ∀ char ∈ word, char.isUpper) :
      Word word
  | title {first : Char} {lowers : List Char} (upper : first.isUpper) (nonempty : lowers ≠ [])
      (all : ∀ char ∈ lowers, char.isLower) : Word (first :: lowers)
  | lowers {word : List Char} (nonempty : word ≠ []) (all : ∀ char ∈ word, char.isLower) :
      Word word
  | digits {word : List Char} (nonempty : word ≠ []) (all : ∀ char ∈ word, isDecimalDigit char) :
      Word word

theorem all_of_mem_rests_plus {letters : Char → Bool}
    (member : rest ∈ (plus letters).rests (word ++ rest)) : ∀ char ∈ word, letters char := by
  obtain ⟨taken, -, split, all⟩ := exists_letters_of_mem_rests_plus member
  rw [List.append_cancel_right split]
  exact all

theorem word_of_mem_rests (nonempty : word ≠ []) (member : rest ∈ tokenRe.rests (word ++ rest)) :
    Word word := by
  simp only [tokenRe, rests_alt, List.mem_append] at member
  rcases member with before | run | title | lower | digit
  · rw [acronymBeforeWord, rests_seq] at before
    obtain ⟨middle, capitals, there⟩ := List.mem_flatMap.mp before
    rw [← eq_of_mem_rests_ahead there] at capitals
    exact .capitals nonempty (all_of_mem_rests_plus capitals)
  · rw [capitalRun, rests_seq] at run
    obtain ⟨middle, capitals, there⟩ := List.mem_flatMap.mp run
    rw [← eq_of_mem_rests_notAhead there] at capitals
    exact .capitals nonempty (all_of_mem_rests_plus capitals)
  · rw [titleWord, rests_seq] at title
    obtain ⟨middle, capital, there⟩ := List.mem_flatMap.mp title
    obtain ⟨first, split, upper⟩ := mem_rests_one.mp capital
    obtain ⟨taken, rfl, all⟩ := exists_letters_of_mem_runs there
    rw [← List.cons_append] at split
    rw [List.append_cancel_right split]
    by_cases none : taken = []
    · subst none
      exact .capitals (List.cons_ne_nil first []) (List.forall_mem_singleton.mpr upper)
    · exact .title upper none all
  · exact .lowers nonempty (all_of_mem_rests_plus lower)
  · exact .digits nonempty (all_of_mem_rests_plus digit)

/-- A word is found whole where a space or the end of the text follows it. -/
theorem Word.head? (isWord : Word word) (ends : ∀ char ∈ rest.head?, char = ' ') :
    (tokenRe.rests (word ++ rest)).head? = some rest := by
  have stops : ∀ {letters : Char → Bool}, letters ' ' = false → Stops letters rest := by
    intro letters space char first
    rw [ends char first]
    exact space
  cases isWord with
  | capitals nonempty all => exact head?_capitals nonempty all (stops rfl) (stops rfl)
  | title upper nonempty all => exact head?_title upper nonempty all (stops rfl)
  | lowers nonempty all => exact head?_lowers nonempty all (stops rfl)
  | digits nonempty all => exact head?_digits nonempty all (stops not_isDecimalDigit_space)

theorem Word.ne_nil (isWord : Word word) : word ≠ [] := by
  cases isWord with
  | capitals nonempty all => exact nonempty
  | title upper nonempty all => exact List.cons_ne_nil _ _
  | lowers nonempty all => exact nonempty
  | digits nonempty all => exact nonempty

/-- Words with spaces between them are found again. -/
theorem findAll_words {words : List (List Char)} (all : ∀ word ∈ words, Word word) :
    tokenRe.findAll ([' '].intercalate words) = words := by
  apply findAll_intercalate
  · intro rest
    exact rests_other rfl rfl not_isDecimalDigit_space
  · intro word member
    have isWord := all word member
    exact ⟨isWord.ne_nil, fun rest ends => isWord.head? ends⟩

/-! ## Display -/

theorem displayed_capitals (all : ∀ char ∈ word, char.isUpper) (index : ℕ) :
    displayed word index = word := by
  rw [displayed, if_pos (List.all_eq_true.mpr all)]

theorem displayed_cons {index : ℕ} (other : ∃ char ∈ first :: text, char.isUpper = false) :
    displayed (first :: text) index =
      if index = 0 then first.toUpper :: text.map Char.toLower
      else (first :: text).map Char.toLower := by
  have some : ¬ (first :: text).all Char.isUpper = true := by
    obtain ⟨char, member, none⟩ := other
    intro all
    rw [List.all_eq_true.mp all char member] at none
    cases none
  rw [displayed, if_neg some]
  rfl

theorem displayed_title_zero (upper : first.isUpper) (nonempty : lowers ≠ [])
    (all : ∀ char ∈ lowers, char.isLower) : displayed (first :: lowers) 0 = first :: lowers := by
  have none : ∀ char ∈ lowers, char.isUpper = false := fun char member =>
    isUpper_eq_false (all char member)
  obtain ⟨char, member⟩ := List.exists_mem_of_ne_nil lowers nonempty
  rw [displayed_cons ⟨char, List.mem_cons_of_mem first member, none char member⟩, if_pos rfl,
    map_toLower none, toUpper_eq_self (isLower_eq_false upper)]

theorem displayed_later {index : ℕ} (later : index ≠ 0) (nonempty : word ≠ [])
    (none : ∀ char ∈ word, char.isUpper = false) : displayed word index = word := by
  obtain ⟨char, others, rfl⟩ := List.exists_cons_of_ne_nil nonempty
  have here := none char List.mem_cons_self
  rw [displayed_cons ⟨char, List.mem_cons_self, here⟩, if_neg later, map_toLower none]

theorem displayed_digits (nonempty : word ≠ []) (all : ∀ char ∈ word, isDecimalDigit char)
    (index : ℕ) : displayed word index = word := by
  have upper : ∀ char ∈ word, char.isUpper = false := fun char member =>
    not_isUpper_of_isDecimalDigit (all char member)
  obtain ⟨char, others, rfl⟩ := List.exists_cons_of_ne_nil nonempty
  obtain ⟨here, others⟩ := List.forall_mem_cons.mp upper
  have lower := not_isLower_of_isDecimalDigit (all char List.mem_cons_self)
  rw [displayed_cons ⟨char, List.mem_cons_self, here⟩, map_toLower upper, map_toLower others,
    toUpper_eq_self lower, ite_self]

theorem displayed_title_later {index : ℕ} (later : index ≠ 0) (nonempty : lowers ≠ [])
    (all : ∀ char ∈ lowers, char.isLower) :
    displayed (first :: lowers) index = first.toLower :: lowers := by
  have none : ∀ char ∈ lowers, char.isUpper = false := fun char member =>
    isUpper_eq_false (all char member)
  obtain ⟨char, member⟩ := List.exists_mem_of_ne_nil lowers nonempty
  rw [displayed_cons ⟨char, List.mem_cons_of_mem first member, none char member⟩, if_neg later,
    List.map_cons, map_toLower none]

theorem displayed_lowers_zero (all : ∀ char ∈ first :: lowers, char.isLower) :
    displayed (first :: lowers) 0 = first.toUpper :: lowers := by
  have none : ∀ char ∈ first :: lowers, char.isUpper = false := fun char member =>
    isUpper_eq_false (all char member)
  obtain ⟨here, others⟩ := List.forall_mem_cons.mp none
  rw [displayed_cons ⟨first, List.mem_cons_self, here⟩, if_pos rfl, map_toLower others]

/-- A word is displayed as a word that is displayed as it is. -/
theorem displayed_word (isWord : Word word) (index : ℕ) :
    Word (displayed word index) ∧
      displayed (displayed word index) index = displayed word index := by
  cases isWord with
  | capitals nonempty all =>
      rw [displayed_capitals all, displayed_capitals all]
      exact ⟨.capitals nonempty all, rfl⟩
  | @title first lowers upper nonempty all =>
      by_cases start : index = 0
      · rw [start, displayed_title_zero upper nonempty all, displayed_title_zero upper nonempty all]
        exact ⟨.title upper nonempty all, rfl⟩
      · have small : ∀ char ∈ first.toLower :: lowers, char.isLower :=
          List.forall_mem_cons.mpr ⟨isLower_toLower upper, all⟩
        rw [displayed_title_later start nonempty all,
          displayed_later start (List.cons_ne_nil _ _) fun char member =>
            isUpper_eq_false (small char member)]
        exact ⟨.lowers (List.cons_ne_nil _ _) small, rfl⟩
  | lowers nonempty all =>
      by_cases start : index = 0
      · obtain ⟨first, others, rfl⟩ := List.exists_cons_of_ne_nil nonempty
        have capital := isUpper_toUpper (all first List.mem_cons_self)
        rw [start, displayed_lowers_zero all]
        by_cases single : others = []
        · have upper : ∀ char ∈ first.toUpper :: others, char.isUpper := by
            rw [single]
            exact List.forall_mem_singleton.mpr capital
          exact ⟨.capitals (List.cons_ne_nil _ _) upper, displayed_capitals upper 0⟩
        · have small := (List.forall_mem_cons.mp all).2
          exact ⟨.title capital single small, displayed_title_zero capital single small⟩
      · have none : ∀ char ∈ word, char.isUpper = false := fun char member =>
          isUpper_eq_false (all char member)
        rw [displayed_later start nonempty none, displayed_later start nonempty none]
        exact ⟨.lowers nonempty all, rfl⟩
  | digits nonempty all =>
      rw [displayed_digits nonempty all, displayed_digits nonempty all]
      exact ⟨.digits nonempty all, rfl⟩

/-- The words as they are displayed. -/
def shown (tokens : List (List Char)) : List (List Char) :=
  tokens.mapIdx fun index token => displayed token index

theorem word_of_mem_shown {tokens : List (List Char)} (words : ∀ token ∈ tokens, Word token) :
    ∀ word ∈ shown tokens, Word word := by
  intro word member
  obtain ⟨index, inside, rfl⟩ := List.mem_mapIdx.mp member
  exact (displayed_word (words _ (List.getElem_mem inside)) index).1

theorem shown_shown {tokens : List (List Char)} (words : ∀ token ∈ tokens, Word token) :
    shown (shown tokens) = shown tokens := by
  rw [shown, shown, List.mapIdx_mapIdx, List.mapIdx_eq_mapIdx_iff]
  intro index inside
  exact (displayed_word (words _ (List.getElem_mem inside)) index).2

/-- `humanize_name`, by the regular expression. -/
theorem humanizeName_eq (name : String) :
    humanizeName name =
      if tokenRe.findAll name.toList = [] then name
      else String.ofList ([' '].intercalate (shown (tokenRe.findAll name.toList))) := by
  rw [humanizeName, tokens_eq_findAll String.length_toList.le, shown, List.mapIdx_eq_zipIdx_map]

/-- The words of a name are what the regular expression finds in it, and a display name is displayed
as it is. -/
theorem humanizeName_idempotent (s : String) :
    tokens s.length s.toList = tokenRe.findAll s.toList ∧
    humanizeName (humanizeName s) = humanizeName s := by
  refine ⟨tokens_eq_findAll String.length_toList.le, ?_⟩
  by_cases none : tokenRe.findAll s.toList = []
  · have same : humanizeName s = s := by rw [humanizeName_eq, if_pos none]
    rw [same, same]
  · have words : ∀ token ∈ tokenRe.findAll s.toList, Word token :=
      forall_mem_findAll (fun word rest => word_of_mem_rests) s.toList
    have again : tokenRe.findAll (humanizeName s).toList = shown (tokenRe.findAll s.toList) := by
      rw [humanizeName_eq, if_neg none, String.toList_ofList]
      exact findAll_words (word_of_mem_shown words)
    have some : shown (tokenRe.findAll s.toList) ≠ [] := List.mapIdx_ne_nil_iff.mpr none
    rw [humanizeName_eq (humanizeName s), again, if_neg some, shown_shown words, humanizeName_eq s,
      if_neg none]

example : humanizeName "CameraRTSPUrl2x" = "Camera RTSP url 2 x" := by decide +kernel

end Humanize
end Reference
end AqaraLanLink
