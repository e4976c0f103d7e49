import AqaraLanLink.Library.JsonText
import Mathlib.Algebra.Group.Nat.Defs
import Mathlib.Data.List.Chain
import Mathlib.Data.Fintype.Basic

/-!
# What is written is read again

The reader gives back every value that the writer has written, as long as no text of it has a high
half of a surrogate pair right in front of a low one: the reader takes these two for the pair.
-/

namespace Library
namespace JsonText

/-! ## Texts -/

theorem ofChars_append (first second : List Char) :
    ofChars (first ++ second) = ofChars first ++ ofChars second := List.map_append

/-- No high half stands right in front of a low half. -/
def Unsplit (text : Text) : Prop := text.IsChain fun first next => join? first next = none

theorem hexValue?_digitChar {digit : ℕ} (small : digit < 16) :
    hexValue? (Nat.digitChar digit) = some digit := by
  have table : ∀ digit : Fin 16, hexValue? (Nat.digitChar digit) = some digit.val := by decide
  exact table ⟨digit, small⟩

/-- Four digits give back their unit. -/
theorem scanString_unit {unit : ℕ} (small : unit < 0x10000) (text : Text) :
    scanString (ofChars (escapeUnit unit) ++ text) =
      keepUnit (ofUnit unit) text (scanString text) := by
  have value : unit / 4096 % 16 * 4096 + unit / 256 % 16 * 256 + unit / 16 % 16 * 16 + unit % 16 =
      unit := by omega
  have read : unit? (.char (Nat.digitChar (unit / 4096 % 16))) (.char (Nat.digitChar (unit / 256 % 16)))
      (.char (Nat.digitChar (unit / 16 % 16))) (.char (Nat.digitChar (unit % 16))) =
      some (ofUnit unit) := by
    simp only [unit?, CodePoint.hex?]
    rw [hexValue?_digitChar (Nat.mod_lt _ (by omega)), hexValue?_digitChar (Nat.mod_lt _ (by omega)),
      hexValue?_digitChar (Nat.mod_lt _ (by omega)), hexValue?_digitChar (Nat.mod_lt _ (by omega))]
    simp only [Option.bind_eq_bind, Option.bind_some, value]
  simp only [escapeUnit, ofChars, List.map_cons, List.map_nil, List.cons_append, List.nil_append,
    scanString, read]

/-- Nothing that the text begins with makes a pair with the code point. -/
def Alone (first : CodePoint) (text : Text) : Prop :=
  ∀ next, text.head? = some next → join? first next = none

theorem Unsplit.alone {first : CodePoint} {text : Text} (unsplit : Unsplit (first :: text)) :
    Alone first text := by
  intro next begins
  obtain ⟨behind, rfl⟩ := List.head?_eq_some_iff.mp begins
  exact (List.isChain_cons_cons.mp unsplit).1

theorem pair_of_alone {first : CodePoint} {text : Text} (alone : Alone first text) :
    pair first text = first :: text := by
  cases text with
  | nil => rfl
  | cons next text => rw [pair, alone next rfl]

theorem keepUnit_of_alone {first : CodePoint} {text : Text} (alone : Alone first text)
    (behind rest : Text) : keepUnit first behind (.ok (text, rest)) = .ok (first :: text, rest) := by
  rw [keepUnit, pair_of_alone alone]
  exact ite_self _

theorem ofUnit_toNat {char : Char} (small : char.toNat < 0x10000) :
    ofUnit char.toNat = .char char := by
  have valid := char.valid
  have outside : ¬ (0xD800 ≤ char.toNat ∧ char.toNat ≤ 0xDFFF) := by
    rintro ⟨above, below⟩
    rcases valid with low | ⟨high, -⟩
    · change char.toNat < 0xD800 at low
      omega
    · change 0xDFFF < char.toNat at high
      omega
  rw [ofUnit, if_neg outside, Char.ofNat_toNat]

theorem ofUnit_surrogate (half : Fin 0x800) : ofUnit (0xD800 + half.val) = .surrogate half := by
  have small := half.isLt
  have back : Fin.ofNat 0x800 (0xD800 + half.val - 0xD800) = half := by
    apply Fin.ext
    change (0xD800 + half.val - 0xD800) % 0x800 = half.val
    omega
  rw [ofUnit, if_pos (by omega), back]

/-- A character beyond the sixteen-bit ones is a pair. -/
theorem join?_of_astral {char : Char} (large : 0x10000 ≤ char.toNat) :
    ∃ high low : Fin 0x800, high.val = (char.toNat - 0x10000) / 0x400 ∧
      low.val = 0x400 + (char.toNat - 0x10000) % 0x400 ∧
        join? (.surrogate high) (.surrogate low) = some (.char char) := by
  have below : char.toNat < 0x110000 := by
    rcases char.valid with low | ⟨-, high⟩
    · change char.toNat < 0xD800 at low
      omega
    · exact high
  refine ⟨⟨(char.toNat - 0x10000) / 0x400, by omega⟩,
    ⟨0x400 + (char.toNat - 0x10000) % 0x400, by omega⟩, rfl, rfl, ?_⟩
  have whole : 0x10000 + (char.toNat - 0x10000) / 0x400 * 0x400 +
      (0x400 + (char.toNat - 0x10000) % 0x400 - 0x400) = char.toNat := by omega
  rw [join?, if_pos ⟨by simp only []; omega, by simp only []; omega⟩]
  simp only [whole, Char.ofNat_toNat]

theorem join?_low {low : Fin 0x800} (above : 0x400 ≤ low.val) (next : CodePoint) :
    join? (.surrogate low) next = none := by
  cases next with
  | char char => rfl
  | surrogate half => exact if_neg fun both => by omega

theorem join?_char (char : Char) (next : CodePoint) : join? (.char char) next = none := rfl

theorem unsplit_char_cons {char : Char} {text : Text} (unsplit : Unsplit text) :
    Unsplit (.char char :: text) := by
  cases text with
  | nil => exact List.isChain_singleton _
  | cons next text => exact List.isChain_cons_cons.mpr ⟨rfl, unsplit⟩

/-- A character that stands for itself. -/
theorem scanString_plain {char : Char} (quote : char ≠ '"') (slash : char ≠ '\\')
    (printable : ' ' ≤ char) (behind : Text) :
    scanString (.char char :: behind) = made (.char char :: ·) (scanString behind) := by
  have large : ¬ char.toNat < 0x20 := Nat.not_lt.mpr printable
  rw [scanString, if_neg large]
  · exact quote
  · simp [slash]
  · simp [slash]
  · simp [slash]

/-- An escape of one letter. -/
theorem scanString_escaped {letter char : Char} (known : escaped? letter = some char)
    (behind : Text) :
    scanString (.char '\\' :: .char letter :: behind) = made (.char char :: ·) (scanString behind) := by
  have other : letter ≠ 'u' := by
    rintro rfl
    cases known
  rw [scanString, known]
  simp [other]

/-- A character is read again in front of any text that is read. -/
theorem scanString_escape_char (char : Char) {text rest behind : Text}
    (read : scanString behind = .ok (text, rest)) :
    scanString (ofChars (escape (.char char)) ++ behind) = .ok (.char char :: text, rest) := by
  generalize same : CodePoint.char char = point
  fun_cases escape point with
  | case1 => exact (scanString_escaped rfl behind).trans (by rw [read]; rfl)
  | case2 => exact (scanString_escaped rfl behind).trans (by rw [read]; rfl)
  | case3 => exact (scanString_escaped rfl behind).trans (by rw [read]; rfl)
  | case4 => exact (scanString_escaped rfl behind).trans (by rw [read]; rfl)
  | case5 => exact (scanString_escaped rfl behind).trans (by rw [read]; rfl)
  | case6 => exact (scanString_escaped rfl behind).trans (by rw [read]; rfl)
  | case7 => exact (scanString_escaped rfl behind).trans (by rw [read]; rfl)
  | case8 char quote slash _ _ _ _ _ printable =>
      exact (scanString_plain quote slash printable.1 behind).trans (by rw [read]; rfl)
  | case9 char _ _ _ _ _ _ _ _ small =>
      rw [scanString_unit small, ofUnit_toNat small, read,
        keepUnit_of_alone fun next _ => join?_char char next]
  | case10 char _ _ _ _ _ _ _ _ large =>
      obtain ⟨high, low, first, second, joined⟩ := join?_of_astral (Nat.not_lt.mp large)
      have below := high.isLt
      have below' := low.isLt
      have low_eq : 0xDC00 + (char.toNat - 0x10000) % 0x400 = 0xD800 + low.val := by omega
      have front : (ofChars (escapeUnit (0xD800 + low.val)) ++ behind).take 2 =
          [.char '\\', .char 'u'] := rfl
      rw [← first, low_eq, ofChars_append, List.append_assoc, scanString_unit (by omega),
        scanString_unit (by omega), ofUnit_surrogate, ofUnit_surrogate, read,
        keepUnit_of_alone fun next _ => join?_low (by omega) next, keepUnit, if_pos front, pair,
        joined]
  | case11 half => cases same

/-- A text as the reader gives it back: a high half in front of a low one is joined with it. -/
def rejoin : Text → Text
  | [] => []
  | point :: text => pair point (rejoin text)

theorem rejoin_char (char : Char) (text : Text) :
    rejoin (.char char :: text) = .char char :: rejoin text :=
  pair_of_alone fun next _ => join?_char char next

theorem rejoin_of_unsplit {text : Text} (unsplit : Unsplit text) : rejoin text = text := by
  induction text with
  | nil => rfl
  | cons point text induction =>
      rw [rejoin, induction unsplit.tail, pair_of_alone unsplit.alone]

/-- What the writer makes of a text, the reader gives back joined. -/
theorem scanString_writeString (text rest : Text) :
    scanString (ofChars (text.flatMap escape ++ ['"']) ++ rest) = .ok (rejoin text, rest) := by
  induction text with
  | nil => rfl
  | cons point text induction =>
      rw [List.flatMap_cons, List.append_assoc, ofChars_append, List.append_assoc]
      cases point with
      | char char => rw [rejoin_char, scanString_escape_char char induction]
      | surrogate half =>
          have small := half.isLt
          rw [escape, scanString_unit (by omega), ofUnit_surrogate, induction, keepUnit, rejoin]
          split
          · rfl
          · rename_i plain
            have alone : Alone (.surrogate half) (rejoin text) := by
              cases text with
              | nil => exact fun _ read => by cases read
              | cons next text =>
                  cases next with
                  | char char =>
                      rw [rejoin_char]
                      intro other same
                      cases same
                      rfl
                  | surrogate other => exact absurd rfl plain
            rw [pair_of_alone alone]

/-! ## Numbers -/

/-- A number ends here: no digit comes next, nor a fraction or an exponent. -/
def Stops (rest : Text) : Prop :=
  ∀ letter, rest.head? = some (.char letter) →
    letter.isDigit = false ∧ letter ≠ '.' ∧ letter ≠ 'e' ∧ letter ≠ 'E'

/-- The text does not begin with a digit. -/
def NoDigit (rest : Text) : Prop :=
  ∀ letter, rest.head? = some (.char letter) → letter.isDigit = false

theorem spanDigits_append {digits : List Char} (all : ∀ letter ∈ digits, letter.isDigit = true)
    {rest : Text} (stops : NoDigit rest) : spanDigits (ofChars digits ++ rest) = (digits, rest) := by
  induction digits with
  | nil =>
      change spanDigits rest = ([], rest)
      fun_cases spanDigits rest with
      | case1 letter text digit => exact absurd (stops letter rfl) (by simp [digit])
      | case2 => rfl
      | case3 => rfl
  | cons digit digits induction =>
      obtain ⟨first, others⟩ := List.forall_mem_cons.mp all
      change spanDigits (.char digit :: (ofChars digits ++ rest)) = _
      rw [spanDigits, if_pos first, induction others]

theorem scanWhole_append {digits : List Char} (all : ∀ letter ∈ digits, letter.isDigit = true)
    (whole : digits = ['0'] ∨ digits ≠ [] ∧ digits.head? ≠ some '0') {rest : Text}
    (stops : NoDigit rest) : scanWhole (ofChars digits ++ rest) = (digits, rest) := by
  rcases whole with rfl | ⟨filled, other⟩
  · rfl
  · cases digits with
    | nil => exact absurd rfl filled
    | cons digit digits =>
        have notZero : digit ≠ '0' := fun same => other (congrArg some same)
        rw [← spanDigits_append all stops]
        change scanWhole (.char digit :: (ofChars digits ++ rest)) = _
        rw [scanWhole]
        · rfl
        · simpa using notZero

theorem scanFraction_append {digits : List Char} (all : ∀ letter ∈ digits, letter.isDigit = true)
    {rest : Text} (stops : NoDigit rest) (point : rest.head? ≠ some (.char '.')) :
    scanFraction (ofChars (if digits = [] then [] else '.' :: digits) ++ rest) =
      (digits, rest) := by
  by_cases empty : digits = []
  · rw [if_pos empty, empty]
    change scanFraction rest = ([], rest)
    fun_cases scanFraction rest with
    | case1 => rfl
    | case2 => exact absurd rfl point
    | case3 => rfl
  · rw [if_neg empty]
    change scanFraction (.char '.' :: (ofChars digits ++ rest)) = _
    rw [scanFraction, spanDigits_append all stops, if_neg empty]

theorem scanSign_append {sign : List Char} (known : sign = [] ∨ sign = ['+'] ∨ sign = ['-'])
    {rest : Text} {digit : Char} (begins : rest.head? = some (.char digit))
    (isDigit : digit.isDigit = true) : scanSign (ofChars sign ++ rest) = (sign, rest) := by
  rcases known with rfl | rfl | rfl
  · change scanSign rest = ([], rest)
    fun_cases scanSign rest with
    | case1 => cases begins; cases isDigit
    | case2 => cases begins; cases isDigit
    | case3 => rfl
  · rfl
  · rfl

theorem scanExponent_append {sign digits : List Char}
    (all : ∀ letter ∈ digits, letter.isDigit = true)
    (known : sign = [] ∨ digits ≠ [] ∧ (sign = ['+'] ∨ sign = ['-'])) {rest : Text}
    (stops : NoDigit rest) (small : rest.head? ≠ some (.char 'e'))
    (capital : rest.head? ≠ some (.char 'E')) :
    scanExponent (ofChars (if digits = [] then [] else 'e' :: (sign ++ digits)) ++ rest) =
      (sign, digits, rest) := by
  by_cases empty : digits = []
  · have unsigned : sign = [] := known.resolve_right fun both => both.1 empty
    rw [if_pos empty, empty, unsigned]
    change scanExponent rest = ([], [], rest)
    fun_cases scanExponent rest with
    | case1 => rfl
    | case2 => exact absurd rfl small
    | case3 => rfl
    | case4 => exact absurd rfl capital
    | case5 => rfl
  · rw [if_neg empty]
    have signed : scanSign (ofChars sign ++ (ofChars digits ++ rest)) =
        (sign, ofChars digits ++ rest) := by
      obtain ⟨digit, digits', rfl⟩ := List.exists_cons_of_ne_nil empty
      exact scanSign_append (known.imp_right And.right) rfl (all digit List.mem_cons_self)
    change scanExponent (.char 'e' :: (ofChars (sign ++ digits) ++ rest)) = _
    rw [ofChars_append, List.append_assoc, scanExponent, signed, spanDigits_append all stops,
      if_neg empty]

theorem Stops.noDigit {rest : Text} (stops : Stops rest) : NoDigit rest :=
  fun letter begins => (stops letter begins).1

theorem scanMinus_append {negative : Bool} {rest : Text} {digit : Char}
    (begins : rest.head? = some (.char digit)) (isDigit : digit.isDigit = true) :
    scanMinus (ofChars (if negative then ['-'] else []) ++ rest) = (negative, rest) := by
  cases negative with
  | true => rfl
  | false =>
      change scanMinus rest = (false, rest)
      fun_cases scanMinus rest with
      | case1 => cases begins; cases isDigit
      | case2 => rfl

/-- Behind the whole digits and the fraction there is an exponent or the end. -/
theorem noDigit_exponent {rest : Text} (stops : Stops rest) (sign digits : List Char) :
    NoDigit (ofChars (if digits = [] then [] else 'e' :: (sign ++ digits)) ++ rest) ∧
      (ofChars (if digits = [] then [] else 'e' :: (sign ++ digits)) ++ rest).head? ≠
        some (.char '.') := by
  by_cases empty : digits = []
  · rw [if_pos empty]
    exact ⟨stops.noDigit, fun same => (stops '.' same).2.1 rfl⟩
  · rw [if_neg empty]
    constructor
    · rintro _ ⟨⟩
      rfl
    · rintro ⟨⟩

/-- Behind the whole digits there is a fraction, or something else that is no digit. -/
theorem noDigit_fraction {rest : Text} (stops : NoDigit rest) (digits : List Char) :
    NoDigit (ofChars (if digits = [] then [] else '.' :: digits) ++ rest) := by
  by_cases empty : digits = []
  · rw [if_pos empty]
    exact stops
  · rw [if_neg empty]
    rintro _ ⟨⟩
    rfl

theorem Numeral.Valid.exists_whole {numeral : Numeral} (valid : numeral.Valid) :
    ∃ digit digits, numeral.whole = digit :: digits ∧ digit.isDigit = true := by
  have filled : numeral.whole ≠ [] := by
    rcases valid.whole with zero | ⟨filled, -⟩
    · simp [zero]
    · exact filled
  obtain ⟨digit, digits, same⟩ := List.exists_cons_of_ne_nil filled
  exact ⟨digit, digits, same, valid.wholeDigits digit (same ▸ List.mem_cons_self)⟩

/-- A numeral is read again in front of anything that does not go on with it. -/
theorem scanNumeral_text {numeral : Numeral} (valid : numeral.Valid) {rest : Text}
    (stops : Stops rest) : scanNumeral (ofChars numeral.text ++ rest) = some (numeral, rest) := by
  obtain ⟨digit, digits, whole, isDigit⟩ := valid.exists_whole
  obtain ⟨noDigit, noPoint⟩ := noDigit_exponent stops numeral.exponentSign numeral.exponent
  have noDigit' := noDigit_fraction noDigit numeral.fraction
  have exponent := scanExponent_append valid.exponent valid.sign stops.noDigit
    (fun same => (stops 'e' same).2.2.1 rfl) (fun same => (stops 'E' same).2.2.2 rfl)
  have fraction := scanFraction_append valid.fraction noDigit noPoint
  have read := scanWhole_append valid.wholeDigits valid.whole noDigit'
  have signed : ∀ behind, scanMinus (ofChars (if numeral.negative then ['-'] else []) ++
      (ofChars numeral.whole ++ behind)) = (numeral.negative, ofChars numeral.whole ++ behind) :=
    fun behind => scanMinus_append (by rw [whole]; rfl) isDigit
  have filled : numeral.whole ≠ [] := by simp [whole]
  rw [Numeral.text]
  simp only [ofChars_append, List.append_assoc]
  simp only [scanNumeral, signed, read, fraction, exponent, if_neg filled]

theorem Stops.of_head {letter : Char} (stops : letter.isDigit = false ∧ letter ≠ '.' ∧
    letter ≠ 'e' ∧ letter ≠ 'E') (rest : Text) : Stops (.char letter :: rest) := by
  rintro _ ⟨⟩
  exact stops

/-! ## Values -/

section
variable {F : Type} {floats : Floats F}

/-- A number is none of the constants. -/
theorem find?_literals_digit {letter : Char} (digit : letter.isDigit = true) (behind : Text) :
    (literals floats).find? (fun literal =>
      (ofChars literal.1).isPrefixOf (.char letter :: behind)) = none := by
  have other : ∀ first : Char, first.isDigit = false → ∀ chars,
      (ofChars (first :: chars)).isPrefixOf (.char letter :: behind) = false := by
    intro first notDigit chars
    have differs : first ≠ letter := by
      rintro rfl
      rw [digit] at notDigit
      cases notDigit
    simp [ofChars, List.isPrefixOf, differs]
  rw [List.find?_eq_none]
  intro literal member
  simp only [literals, writeNull, writeBool, Constant.text, List.map_cons, List.map_nil,
    List.cons_append, List.nil_append, List.mem_cons, List.not_mem_nil, or_false] at member
  rcases member with rfl | rfl | rfl | rfl | rfl | rfl
  all_goals simp [other]

theorem find?_literals_minus {letter : Char} (digit : letter.isDigit = true) (behind : Text) :
    (literals floats).find? (fun literal =>
      (ofChars literal.1).isPrefixOf (.char '-' :: .char letter :: behind)) = none := by
  have differs : 'I' ≠ letter := by
    rintro rfl
    cases digit
  simp [literals, writeNull, writeBool, Constant.text, ofChars, List.isPrefixOf, differs]

theorem scanScalar_numeral {numeral : Numeral} (valid : numeral.Valid) {value : Value F}
    (number : numberOf floats numeral = .ok value) {rest : Text} (stops : Stops rest) :
    scanScalar floats (ofChars numeral.text ++ rest) = .ok (value, rest) := by
  obtain ⟨digit, digits, whole, isDigit⟩ := valid.exists_whole
  have none : (literals floats).find? (fun literal =>
      (ofChars literal.1).isPrefixOf (ofChars numeral.text ++ rest)) = none := by
    rw [Numeral.text, whole]
    cases numeral.negative with
    | true => exact find?_literals_minus isDigit _
    | false => exact find?_literals_digit isDigit _
  rw [scanScalar, none]
  simp only [scanNumeral_text valid stops, number]

theorem isDigit_toDigits (value : ℕ) :
    ∀ letter ∈ Nat.toDigits 10 value, letter.isDigit = true :=
  fun _ member => Nat.isDigit_of_mem_toDigits (by omega) (Nat.le_refl 10) member

/-- Only zero begins with a zero. -/
theorem toDigits_whole (value : ℕ) : Nat.toDigits 10 value = ['0'] ∨
    Nat.toDigits 10 value ≠ [] ∧ (Nat.toDigits 10 value).head? ≠ some '0' := by
  induction value using Nat.strong_induction_on with
  | h value induction =>
      rcases Nat.lt_or_ge value 10 with small | large
      · have table : ∀ digit : Fin 10, [Nat.digitChar digit] = ['0'] ∨
            [Nat.digitChar digit] ≠ [] ∧ [Nat.digitChar digit].head? ≠ some '0' := by decide
        rw [Nat.toDigits_of_lt_base small]
        exact table ⟨value, small⟩
      · rw [Nat.toDigits_of_base_le (by omega) large]
        rcases induction (value / 10) (by omega) with zero | ⟨filled, other⟩
        · have positive := Nat.ofDigitChars_ten_toDigits (n := value / 10)
          rw [zero] at positive
          change 0 = value / 10 at positive
          omega
        · rw [List.head?_append_of_ne_nil _ filled]
          exact Or.inr ⟨by simp, other⟩

/-- The numeral of an integer. -/
def intNumeral (value : ℤ) : Numeral :=
  ⟨decide (value < 0), Nat.toDigits 10 value.natAbs, [], [], []⟩

theorem text_intNumeral (value : ℤ) : (intNumeral value).text = writeInt value := by
  simp [Numeral.text, intNumeral, writeInt]

theorem valid_intNumeral (value : ℤ) : (intNumeral value).Valid where
  whole := toDigits_whole _
  wholeDigits := isDigit_toDigits _
  fraction := nofun
  sign := Or.inl rfl
  exponent := nofun

theorem numberOf_intNumeral {value : ℤ}
    (short : ¬ maxDigits < (Nat.toDigits 10 value.natAbs).length) :
    numberOf floats (intNumeral value) = .ok (.int value) := by
  have back : (if value < 0 then -1 else 1) * (value.natAbs : ℤ) = value := by
    split
    · omega
    · omega
  simp only [numberOf, intNumeral, Numeral.IsInt, and_self, if_true, if_neg short, decide_eq_true_eq,
    Nat.ofDigitChars_ten_toDigits, back]

/-- A value that the text gives back: no text of it is split, and the keys of an object are distinct.
-/
inductive Sound : Value F → Prop
  | null : Sound .null
  | bool (value : Bool) : Sound (.bool value)
  | int (value : ℤ) : Sound (.int value)
  | float (value : F) : Sound (.float value)
  | string {text : Text} : Unsplit text → Sound (.string text)
  | array {items : List (Value F)} : (∀ item ∈ items, Sound item) → Sound (.array items)
  | object {members : List (Text × Value F)} : (∀ member ∈ members, Unsplit member.1) →
      (∀ member ∈ members, Sound member.2) → (members.map Prod.fst).Nodup →
      Sound (.object members)

/-- A value is read from a text in front of anything that does not go on with it. -/
def ReadBack (floats : Floats F) (levels : ℕ) (chars : List Char) (value : Value F) : Prop :=
  ∀ rest, Stops rest → (scanOnce floats levels).run (ofChars chars ++ rest) = .ok (value, rest)

theorem scanOnce_run (floats : Floats F) (levels : ℕ) (text : Text) : ∃ nested,
    (scanOnce floats levels).run text = scanValue floats nested text := by
  cases levels with
  | zero => exact ⟨none, rfl⟩
  | succ levels => exact ⟨some (scanOnce floats levels), rfl⟩

theorem scanValue_scalar {letter : Char} (other : letter ≠ '"' ∧ letter ≠ '[' ∧ letter ≠ '{')
    (nested : Option (Scanner (Value F))) (behind : Text) :
    scanValue floats nested (.char letter :: behind) = scanScalar floats (.char letter :: behind) := by
  rw [scanValue]
  all_goals simp [other]

/-- What a text begins with decides how it is read. -/
theorem scanValue_cases (text : Text) : (∃ behind, text = .char '"' :: behind) ∨
    (∃ behind, text = .char '[' :: behind) ∨ (∃ behind, text = .char '{' :: behind) ∨
      ∀ (floats : Floats F) nested, scanValue floats nested text = scanScalar floats text := by
  cases text with
  | nil => exact Or.inr (Or.inr (Or.inr fun _ _ => rfl))
  | cons point behind =>
      cases point with
      | surrogate half => exact Or.inr (Or.inr (Or.inr fun _ _ => rfl))
      | char letter =>
          by_cases quote : letter = '"'
          · exact Or.inl ⟨behind, by rw [quote]⟩
          · by_cases bracket : letter = '['
            · exact Or.inr (Or.inl ⟨behind, by rw [bracket]⟩)
            · by_cases brace : letter = '{'
              · exact Or.inr (Or.inr (Or.inl ⟨behind, by rw [brace]⟩))
              · exact Or.inr (Or.inr (Or.inr fun _ nested =>
                  scanValue_scalar ⟨quote, bracket, brace⟩ nested behind))

theorem scanOnce_scalar {letter : Char} (other : letter ≠ '"' ∧ letter ≠ '[' ∧ letter ≠ '{')
    (levels : ℕ) (behind : Text) : (scanOnce floats levels).run (.char letter :: behind) =
      scanScalar floats (.char letter :: behind) := by
  obtain ⟨nested, run⟩ := scanOnce_run floats levels (.char letter :: behind)
  rw [run, scanValue_scalar other]

/-- A value does not begin with whitespace or a closing bracket. -/
theorem not_scanOnce {letter : Char}
    (none : letter = ' ' ∨ letter = '\t' ∨ letter = '\n' ∨ letter = '\r' ∨ letter = ']' ∨
      letter = '}')
    (levels : ℕ) (behind : Text) :
    (scanOnce floats levels).run (.char letter :: behind) = .error .decode := by
  have other : letter ≠ '"' ∧ letter ≠ '[' ∧ letter ≠ '{' := by
    rcases none with rfl | rfl | rfl | rfl | rfl | rfl
    all_goals decide
  rw [scanOnce_scalar other]
  rcases none with rfl | rfl | rfl | rfl | rfl | rfl
  all_goals rfl

/-- The text of something begins, and neither with whitespace nor with a closing bracket. -/
def Solid (chars : List Char) : Prop :=
  ∃ letter, chars.head? = some letter ∧ isSpace (.char letter) = false ∧ letter ≠ ']' ∧ letter ≠ '}'

theorem Solid.append {chars : List Char} (solid : Solid chars) (more : List Char) :
    Solid (chars ++ more) := by
  obtain ⟨letter, begins, plain⟩ := solid
  cases chars with
  | nil => cases begins
  | cons first chars => exact ⟨letter, begins, plain⟩

theorem Solid.skipSpace {chars : List Char} (solid : Solid chars) (rest : Text) :
    skipSpace (ofChars chars ++ rest) = ofChars chars ++ rest := by
  obtain ⟨letter, begins, plain⟩ := solid
  cases chars with
  | nil => cases begins
  | cons first chars =>
      cases begins
      exact List.dropWhile_cons_of_neg (by simp [plain])

theorem skipSpace_blank {chars : List Char} (blank : ∀ letter ∈ chars, isSpace (.char letter) = true)
    (rest : Text) : skipSpace (ofChars chars ++ rest) = skipSpace rest := by
  induction chars with
  | nil => rfl
  | cons letter chars induction =>
      obtain ⟨first, others⟩ := List.forall_mem_cons.mp blank
      rw [← induction others]
      exact List.dropWhile_cons_of_pos first

theorem ReadBack.solid {levels : ℕ} {chars : List Char} {value : Value F}
    (read : ReadBack floats levels chars value) : Solid chars := by
  have alone := read [] nofun
  cases chars with
  | nil =>
      obtain ⟨nested, run⟩ := scanOnce_run floats levels []
      rw [ofChars, List.map_nil, List.nil_append, run] at alone
      cases alone
  | cons letter chars =>
      have begins : ¬ (letter = ' ' ∨ letter = '\t' ∨ letter = '\n' ∨ letter = '\r' ∨ letter = ']' ∨
          letter = '}') := by
        intro none
        rw [ofChars, List.map_cons, List.cons_append, not_scanOnce none] at alone
        cases alone
      refine ⟨letter, rfl, ?_, ?_, ?_⟩
      · rw [isSpace, decide_eq_false_iff_not]
        tauto
      · tauto
      · tauto

/-! ### Items -/

section
variable {α : Type} {close : Char} {item : Scanner α}

/-- What follows an item decides. -/
theorem scanItems_of_read {text rest after : Text} {value : α} {next : Char}
    (read : item.run text = .ok (value, rest)) (behind : skipSpace rest = .char next :: after) :
    scanItems close item text =
      if next = close then .ok ([value], after)
      else if next = ',' then made (value :: ·) (scanItems close item (skipSpace after))
      else .error .decode := by
  rw [scanItems]
  split
  · rename_i failed
    rw [read] at failed
    cases failed
  · rename_i value' rest' read'
    rw [read] at read'
    cases read'
    split
    · rename_i next' after' behind'
      rw [behind] at behind'
      cases behind'
      rfl
    · rename_i other
      exact absurd behind (other next after)

/-- An item is read from a text in front of anything that does not go on with it. -/
def ReadsAs (item : Scanner α) (chars : List Char) (value : α) : Prop :=
  Solid chars ∧ ∀ rest, Stops rest → item.run (ofChars chars ++ rest) = .ok (value, rest)

/-- The items of a list are read one after the other. -/
theorem scanItems_join (separators : Separators) (closes : close = ']' ∨ close = '}')
    {texts : List (List Char)} {values : List α} (read : List.Forall₂ (ReadsAs item) texts values)
    (filled : values ≠ []) (rest : Text) :
    scanItems close item (ofChars (joinItems separators texts) ++ .char close :: rest) =
        .ok (values, rest) ∧ Solid (joinItems separators texts) := by
  have shut : isSpace (.char close) = false ∧ close ≠ ',' ∧ Stops (.char close :: rest) := by
    rcases closes with rfl | rfl
    · exact ⟨rfl, by decide, .of_head (by decide) rest⟩
    · exact ⟨rfl, by decide, .of_head (by decide) rest⟩
  induction read with
  | nil => exact absurd rfl filled
  | @cons chars value texts values first others induction =>
      obtain ⟨solid, run⟩ := first
      cases others with
      | nil =>
          have behind : skipSpace (.char close :: rest) = .char close :: rest :=
            List.dropWhile_cons_of_neg (by simp [shut.1])
          rw [joinItems, scanItems_of_read (run _ shut.2.2) behind, if_pos rfl]
          exact ⟨rfl, solid⟩
      | @cons chars' value' texts' values' =>
          obtain ⟨others, solid'⟩ := induction (List.cons_ne_nil _ _)
          have blank : ∀ letter ∈ separators.afterComma, isSpace (.char letter) = true :=
            fun letter member => separators.blank letter (List.mem_append_left _ member)
          have stops : Stops (.char ',' :: (ofChars separators.afterComma ++
              (ofChars (joinItems separators (chars' :: texts')) ++ .char close :: rest))) :=
            .of_head (by decide) _
          have skipped := (skipSpace_blank blank _).trans (solid'.skipSpace (.char close :: rest))
          have front : ofChars (joinItems separators (chars :: chars' :: texts')) ++
              .char close :: rest = ofChars chars ++ .char ',' :: (ofChars separators.afterComma ++
                (ofChars (joinItems separators (chars' :: texts')) ++ .char close :: rest)) := by
            rw [joinItems]
            · simp only [ofChars, List.map_append, List.map_cons, List.append_assoc,
                List.cons_append]
            · exact List.cons_ne_nil _ _
          constructor
          · rw [front, scanItems_of_read (run _ stops) rfl, if_neg (Ne.symm shut.2.1), if_pos rfl,
              skipped, others]
            rfl
          · rw [joinItems]
            · exact solid.append _
            · exact List.cons_ne_nil _ _

/-- So are the items between two brackets. -/
theorem scanEnclosed_join (separators : Separators) (closes : close = ']' ∨ close = '}')
    {texts : List (List Char)} {values : List α} (read : List.Forall₂ (ReadsAs item) texts values)
    (rest : Text) : scanEnclosed close item
      (ofChars (joinItems separators texts ++ [close]) ++ rest) = .ok (values, rest) := by
  have shut : isSpace (.char close) = false := by
    rcases closes with rfl | rfl
    · rfl
    · rfl
  cases values with
  | nil =>
      cases read
      have alone : skipSpace (.char close :: rest) = .char close :: rest :=
        List.dropWhile_cons_of_neg (by simp [shut])
      change scanEnclosed close item (.char close :: rest) = _
      rw [scanEnclosed, alone]
      exact if_pos rfl
  | cons value values =>
      obtain ⟨others, solid⟩ := scanItems_join separators closes read (List.cons_ne_nil _ _) rest
      obtain ⟨letter, begins, plain, bracket, brace⟩ := solid
      obtain ⟨chars, joined⟩ : ∃ chars, joinItems separators texts = letter :: chars :=
        List.head?_eq_some_iff.mp begins
      have differs : letter ≠ close := by
        rcases closes with rfl | rfl
        · exact bracket
        · exact brace
      have front : ofChars (joinItems separators texts ++ [close]) ++ rest =
          .char letter :: (ofChars chars ++ .char close :: rest) := by
        rw [joined, ofChars_append, List.append_assoc]
        rfl
      have still : skipSpace (.char letter :: (ofChars chars ++ .char close :: rest)) =
          .char letter :: (ofChars chars ++ .char close :: rest) :=
        List.dropWhile_cons_of_neg (by simp [plain])
      have notShut : (CodePoint.char letter :: (ofChars chars ++ .char close :: rest)).head? ≠
          some (.char close) := by
        rintro ⟨⟩
        exact differs rfl
      rw [joined] at others
      rw [front, scanEnclosed, still, if_neg notShut]
      exact others

end

/-! ### Round trip -/

theorem readBack_literal {levels : ℕ} {chars : List Char} {value : Value F}
    (known : (chars, value) ∈ literals floats) : ReadBack floats levels chars value := by
  intro rest _
  obtain ⟨nested, run⟩ := scanOnce_run floats levels (ofChars chars ++ rest)
  rw [run]
  simp only [literals, writeNull, writeBool, Constant.text, List.map_cons, List.map_nil,
    List.cons_append, List.nil_append, List.mem_cons, List.not_mem_nil, or_false,
    Prod.mk.injEq] at known
  rcases known with ⟨rfl, rfl⟩ | ⟨rfl, rfl⟩ | ⟨rfl, rfl⟩ | ⟨rfl, rfl⟩ | ⟨rfl, rfl⟩ | ⟨rfl, rfl⟩
  all_goals rfl

theorem readBack_numeral {levels : ℕ} {numeral : Numeral} {value : Value F} (valid : numeral.Valid)
    (number : numberOf floats numeral = .ok value) :
    ReadBack floats levels numeral.text value := by
  intro rest stops
  obtain ⟨digit, digits, whole, isDigit⟩ := valid.exists_whole
  have front : ∃ letter behind, ofChars numeral.text ++ rest = .char letter :: behind ∧
      letter ≠ '"' ∧ letter ≠ '[' ∧ letter ≠ '{' := by
    rw [Numeral.text, whole]
    cases numeral.negative with
    | true => exact ⟨'-', _, rfl, by decide⟩
    | false =>
        refine ⟨digit, _, rfl, ?_⟩
        refine ⟨?_, ?_, ?_⟩
        all_goals
          rintro rfl
          cases isDigit
  obtain ⟨letter, behind, same, other⟩ := front
  rw [← scanScalar_numeral valid number stops, same, scanOnce_scalar other]

theorem readBack_string (levels : ℕ) (text : Text) :
    ReadBack floats levels (writeString text) (.string (rejoin text)) := by
  intro rest _
  obtain ⟨nested, run⟩ := scanOnce_run floats levels (ofChars (writeString text) ++ rest)
  rw [run]
  change scanValue floats nested
    (.char '"' :: (ofChars (text.flatMap escape ++ ['"']) ++ rest)) = _
  rw [scanValue, scanString_writeString, made_ok]

theorem scanMember_write {separators : Separators} {levels : ℕ} {key : Text} {chars : List Char}
    {value : Value F} (read : ReadBack floats levels chars value) :
    ReadsAs (memberScanner (scanOnce floats levels))
      (writeString key ++ ':' :: (separators.afterColon ++ chars)) (rejoin key, value) := by
  refine ⟨⟨'"', rfl, rfl, by decide⟩, fun rest stops => ?_⟩
  have blank : ∀ letter ∈ separators.afterColon, isSpace (.char letter) = true :=
    fun letter member => separators.blank letter (List.mem_append_right _ member)
  have front : ofChars (writeString key ++ ':' :: (separators.afterColon ++ chars)) ++ rest =
      .char '"' :: (ofChars (key.flatMap escape ++ ['"']) ++
        .char ':' :: (ofChars separators.afterColon ++ (ofChars chars ++ rest))) := by
    simp only [writeString, ofChars, List.map_append, List.map_cons, List.append_assoc,
      List.cons_append]
  have behind : skipSpace (.char ':' :: (ofChars separators.afterColon ++ (ofChars chars ++ rest))) =
      .char ':' :: (ofChars separators.afterColon ++ (ofChars chars ++ rest)) := rfl
  have skipped := (skipSpace_blank blank _).trans (read.solid.skipSpace rest)
  have run : ∀ text, (memberScanner (scanOnce floats levels)).run text =
      scanMember (scanOnce floats levels) text := fun _ => rfl
  rw [front, run, scanMember, scanKey, scanString_writeString]
  simp only [behind, skipped, read rest stops, made_ok]

/-- What is read of items that are written. -/
theorem exists_readsAs_writeItems {separators : Separators} {levels : ℕ} {items : List (Value F)}
    (each : ∀ item ∈ items, ∀ chars, write separators floats levels item = .ok chars →
      ∃ item', ReadBack floats levels chars item' ∧ (Sound item → item' = item))
    {texts : List (List Char)} (written : writeItems separators floats levels items = .ok texts) :
    ∃ items', List.Forall₂ (ReadsAs (scanOnce floats levels)) texts items' ∧
      ((∀ item ∈ items, Sound item) → items' = items) := by
  induction items generalizing texts with
  | nil =>
      cases written
      exact ⟨[], .nil, fun _ => rfl⟩
  | cons item items induction =>
      obtain ⟨first, others⟩ := List.forall_mem_cons.mp each
      simp only [writeItems, bind_eq_ok_iff] at written
      obtain ⟨chars, here, texts, there, same⟩ := written
      cases same
      obtain ⟨item', read, back⟩ := first chars here
      obtain ⟨items', reads, backs⟩ := induction others there
      refine ⟨item' :: items', .cons ⟨read.solid, read⟩ reads, fun sound => ?_⟩
      obtain ⟨soundItem, soundItems⟩ := List.forall_mem_cons.mp sound
      rw [back soundItem, backs soundItems]

/-- What is read of members that are written. -/
theorem exists_readsAs_writeMembers {separators : Separators} {levels : ℕ}
    {members : List (Text × Value F)}
    (each : ∀ member ∈ members, ∀ chars, write separators floats levels member.2 = .ok chars →
      ∃ value', ReadBack floats levels chars value' ∧ (Sound member.2 → value' = member.2))
    {texts : List (List Char)}
    (written : writeMembers separators floats levels members = .ok texts) :
    ∃ members', List.Forall₂ (ReadsAs (memberScanner (scanOnce floats levels))) texts members' ∧
      ((∀ member ∈ members, Unsplit member.1) → (∀ member ∈ members, Sound member.2) →
        members' = members) := by
  induction members generalizing texts with
  | nil =>
      cases written
      exact ⟨[], .nil, fun _ _ => rfl⟩
  | cons member members induction =>
      obtain ⟨first, others⟩ := List.forall_mem_cons.mp each
      simp only [writeMembers, bind_eq_ok_iff] at written
      obtain ⟨chars, here, texts, there, same⟩ := written
      cases same
      obtain ⟨value', read, back⟩ := first chars here
      obtain ⟨members', reads, backs⟩ := induction others there
      refine ⟨(rejoin member.1, value') :: members', .cons (scanMember_write read) reads,
        fun unsplit sound => ?_⟩
      obtain ⟨key, keys⟩ := List.forall_mem_cons.mp unsplit
      obtain ⟨soundValue, soundValues⟩ := List.forall_mem_cons.mp sound
      rw [rejoin_of_unsplit key, back soundValue, backs keys soundValues]

/-- Distinct keys stay as they stand. -/
theorem dictionary_of_nodup {members : List (Text × Value F)}
    (nodup : (members.map Prod.fst).Nodup) : dictionary members = members := by
  have fold : ∀ members entries : List (Text × Value F),
      ((entries ++ members).map Prod.fst).Nodup →
      members.foldl (fun entries member => Dictionary.setEntries entries member.1 member.2) entries =
        entries ++ members := by
    intro members
    induction members with
    | nil => exact fun entries _ => (List.append_nil entries).symm
    | cons member members induction =>
        intro entries nodup
        have fresh : member.1 ∉ entries.map Prod.fst := by
          intro known
          rw [List.map_append, List.nodup_append'] at nodup
          exact nodup.2.2 known List.mem_cons_self
        have whole : entries ++ member :: members = (entries ++ [member]) ++ members := by
          rw [List.append_assoc, List.singleton_append]
        rw [List.foldl_cons, Dictionary.setEntries, if_neg fresh, whole]
        exact induction _ (whole ▸ nodup)
  exact fold members [] nodup

/-- A value that is neither an array nor an object. -/
theorem exists_readBack_scalar {separators : Separators} {levels : ℕ} {value : Value F}
    (notArray : ∀ items, value ≠ .array items) (notObject : ∀ members, value ≠ .object members)
    {chars : List Char} (written : write separators floats levels value = .ok chars) :
    ∃ value', ReadBack floats levels chars value' ∧ (Sound value → value' = value) := by
  cases value with
  | null =>
      cases written
      exact ⟨.null, readBack_literal (by simp [literals]), fun _ => rfl⟩
  | bool value =>
      cases written
      exact ⟨.bool value, readBack_literal (by cases value <;> simp [literals]), fun _ => rfl⟩
  | int value =>
      rw [write] at written
      split at written
      · cases written
      · rename_i short
        cases written
        rw [← text_intNumeral]
        exact ⟨.int value, readBack_numeral (valid_intNumeral value) (numberOf_intNumeral short),
          fun _ => rfl⟩
  | float value =>
      refine ⟨.float value, ?_, fun _ => rfl⟩
      rw [write] at written
      split at written
      · rename_i numeral same
        cases written
        obtain ⟨valid, isFloat, read⟩ := floats.read_repr value numeral same
        exact readBack_numeral valid (by rw [numberOf, if_neg isFloat, read])
      · rename_i constant same
        cases written
        rw [← floats.constant_repr value constant same]
        exact readBack_literal (by cases constant <;> simp [literals])
  | string text =>
      cases written
      refine ⟨_, readBack_string levels text, fun sound => ?_⟩
      cases sound with
      | string unsplit => rw [rejoin_of_unsplit unsplit]
  | array items => exact absurd rfl (notArray items)
  | object members => exact absurd rfl (notObject members)

/-- Something is read of every value that is written, and for a sound value it is the value. -/
theorem exists_readBack_write (separators : Separators) {levels : ℕ} {value : Value F}
    {chars : List Char} (written : write separators floats levels value = .ok chars) :
    ∃ value', ReadBack floats levels chars value' ∧ (Sound value → value' = value) := by
  -- by the calls that are left, since an array or an object takes one of them
  induction levels generalizing value chars with
  | zero =>
      apply exists_readBack_scalar _ _ written
      · rintro items rfl
        cases written
      · rintro members rfl
        cases written
  | succ levels induction =>
      have run : ∀ text, (scanOnce floats (levels + 1)).run text =
          scanValue floats (some (scanOnce floats levels)) text := fun _ => rfl
      by_cases array : ∃ items, value = .array items
      · obtain ⟨items, rfl⟩ := array
        simp only [write, bind_eq_ok_iff] at written
        obtain ⟨texts, each, same⟩ := written
        cases same
        obtain ⟨items', read, back⟩ := exists_readsAs_writeItems
          (fun item _ chars here => induction here) each
        refine ⟨.array items', fun rest _ => ?_, fun sound => ?_⟩
        · have enclosed := scanEnclosed_join separators (Or.inl rfl) read rest
          change (scanOnce floats (levels + 1)).run
            (.char '[' :: (ofChars (joinItems separators texts ++ [']']) ++ rest)) = _
          rw [run, scanValue, enclosed, made_ok]
        · cases sound with
          | array sound => rw [back sound]
      · by_cases object : ∃ members, value = .object members
        · obtain ⟨members, rfl⟩ := object
          simp only [write, bind_eq_ok_iff] at written
          obtain ⟨texts, each, same⟩ := written
          cases same
          obtain ⟨members', read, back⟩ := exists_readsAs_writeMembers
            (fun member _ chars here => induction here) each
          refine ⟨.object (dictionary members'), fun rest _ => ?_, fun sound => ?_⟩
          · have enclosed := scanEnclosed_join separators (Or.inr rfl) read rest
            change (scanOnce floats (levels + 1)).run
              (.char '{' :: (ofChars (joinItems separators texts ++ ['}']) ++ rest)) = _
            rw [run, scanValue, enclosed, made_ok]
          · cases sound with
            | object unsplit sound nodup => rw [back unsplit sound, dictionary_of_nodup nodup]
        · exact exists_readBack_scalar (fun items same => array ⟨items, same⟩)
            (fun members same => object ⟨members, same⟩) written

/-- Every sound value that is written is read again. -/
theorem readBack_write (separators : Separators) {value : Value F}
    (sound : Sound value) {levels : ℕ} {chars : List Char}
    (written : write separators floats levels value = .ok chars) :
    ReadBack floats levels chars value := by
  obtain ⟨value', read, same⟩ := exists_readBack_write separators written
  exact same sound ▸ read

/-- A whole text that a value is read from. -/
theorem loads_of_readBack {levels : ℕ} {chars : List Char} {value : Value F}
    (read : ReadBack floats levels chars value) :
    loads floats levels (ofChars chars) = .ok value := by
  have whole := read [] nofun
  have still := read.solid.skipSpace []
  rw [List.append_nil] at whole still
  have noMark : (ofChars chars).head? ≠ some (.char '\uFEFF') := by
    intro begins
    obtain ⟨behind, same⟩ := List.head?_eq_some_iff.mp begins
    rw [same, scanOnce_scalar (by decide)] at whole
    cases whole
  rw [loads, if_neg noMark, still, whole]
  exact if_pos rfl

/-- What `dumps` writes, `loads` reads. -/
theorem loads_dumps (separators : Separators) {value : Value F}
    (sound : Sound value) {levels : ℕ} {chars : List Char}
    (written : dumps separators floats levels value = .ok chars) :
    loads floats levels (ofChars chars) = .ok value :=
  loads_of_readBack (readBack_write separators sound written)

end

/-! ## Numbers that are read -/

section
variable {F : Type} {floats : Floats F}

theorem ofDigitChars_lt {digits : List Char} (all : ∀ letter ∈ digits, letter.isDigit = true) :
    Nat.ofDigitChars 10 digits 0 < 10 ^ digits.length := by
  induction digits with
  | nil => exact Nat.one_pos
  | cons letter digits induction =>
      have bound : letter.toNat - '0'.toNat < 10 := by
        have bounds : 48 ≤ letter.toNat ∧ letter.toNat ≤ 57 :=
          Char.isDigit_iff_toNat.mp (all letter List.mem_cons_self)
        change letter.toNat - 48 < 10
        omega
      have rest := induction fun other member => all other (List.mem_cons_of_mem _ member)
      rw [Nat.ofDigitChars_cons, Nat.ofDigitChars_eq_ofDigitChars_zero, List.length_cons,
        Nat.pow_succ]
      have most : 10 ^ digits.length * (10 * 0 + (letter.toNat - '0'.toNat)) ≤
          10 ^ digits.length * 9 := Nat.mul_le_mul_left _ (by omega)
      omega

theorem isDigit_spanDigits (text : Text) : ∀ letter ∈ (spanDigits text).1, letter.isDigit = true := by
  fun_induction spanDigits text with
  | case1 char text digit induction => exact List.forall_mem_cons.mpr ⟨digit, induction⟩
  | case2 => exact fun letter member => absurd member List.not_mem_nil
  | case3 => exact fun letter member => absurd member List.not_mem_nil

theorem isDigit_scanWhole (text : Text) : ∀ letter ∈ (scanWhole text).1, letter.isDigit = true := by
  fun_cases scanWhole text with
  | case1 text =>
      intro letter member
      rw [List.mem_singleton.mp member]
      rfl
  | case2 => exact isDigit_spanDigits text

theorem scanWhole_of_scanNumeral {text rest : Text} {numeral : Numeral}
    (found : scanNumeral text = some (numeral, rest)) :
    ∀ letter ∈ numeral.whole, letter.isDigit = true := by
  simp only [scanNumeral] at found
  split at found
  · cases found
  · cases found
    exact isDigit_scanWhole _

/-- A number that has been read can be written. -/
theorem returns_write_numberOf (separators : Separators) (levels : ℕ) {numeral : Numeral}
    (digits : ∀ letter ∈ numeral.whole, letter.isDigit = true) {value : Value F}
    (number : numberOf floats numeral = .ok value) :
    Returns (write separators floats levels value) := by
  rw [numberOf] at number
  split at number
  · split at number
    · cases number
    · rename_i short
      cases number
      have size := Nat.lt_of_lt_of_le (ofDigitChars_lt digits)
        (Nat.pow_le_pow_right (by omega) (Nat.not_lt.mp short))
      have value : ((if numeral.negative then -1 else 1) *
          (Nat.ofDigitChars 10 numeral.whole 0 : ℤ)).natAbs =
            Nat.ofDigitChars 10 numeral.whole 0 := by
        split
        · omega
        · omega
      have most := (Nat.length_toDigits_le_iff (b := 10) (by omega)
        (show 0 < maxDigits from Nat.succ_pos _)).mpr size
      rw [write, value, if_neg (Nat.not_lt.mpr most)]
      exact returns_ok _
  · cases number
    rw [write]
    split
    · exact returns_ok _
    · exact returns_ok _

end

/-! ## What is read can be written -/

section
variable {F : Type} {floats : Floats F}

theorem made_eq_ok_iff {α β : Type} {make : α → β} {result : Except Failure (α × Text)} {made' : β}
    {rest : Text} : made make result = .ok (made', rest) ↔
      ∃ value, result = .ok (value, rest) ∧ make value = made' := by
  cases result with
  | error failure => exact ⟨nofun, nofun⟩
  | ok read =>
      constructor
      · rintro ⟨⟩
        exact ⟨_, rfl, rfl⟩
      · rintro ⟨_, ⟨⟩, rfl⟩
        rfl

/-- Every item of a list has been read. -/
theorem exists_of_scanItems {α : Type} {close : Char} {item : Scanner α} {text rest : Text}
    {values : List α} (read : scanItems close item text = .ok (values, rest)) :
    ∀ value ∈ values, ∃ text rest, item.run text = .ok (value, rest) := by
  fun_induction scanItems close item text generalizing values rest with
  | case1 => cases read
  | case2 text value _ here =>
      cases read
      intro other member
      rw [List.mem_singleton.mp member]
      exact ⟨_, _, here⟩
  | case3 text value _ here _ _ _ induction =>
      obtain ⟨others, behind, rfl⟩ := made_eq_ok_iff.mp read
      exact List.forall_mem_cons.mpr ⟨⟨_, _, here⟩, induction behind⟩
  | case4 => cases read
  | case5 => cases read

theorem exists_of_scanEnclosed {α : Type} {close : Char} {item : Scanner α} {text rest : Text}
    {values : List α} (read : scanEnclosed close item text = .ok (values, rest)) :
    ∀ value ∈ values, ∃ text rest, item.run text = .ok (value, rest) := by
  rw [scanEnclosed] at read
  split at read
  · cases read
    exact fun value member => absurd member List.not_mem_nil
  · exact exists_of_scanItems read

/-- The values of a dictionary are among those of its members. -/
theorem exists_of_mem_dictionary {members : List (Text × Value F)} {entry : Text × Value F}
    (member : entry ∈ dictionary members) : ∃ key, (key, entry.2) ∈ members := by
  have fold : ∀ (members entries : List (Text × Value F)) (entry : Text × Value F),
      entry ∈ members.foldl
        (fun entries member => Dictionary.setEntries entries member.1 member.2) entries →
      ∃ key, (key, entry.2) ∈ entries ++ members := by
    intro members
    induction members with
    | nil => exact fun entries entry member => ⟨entry.1, List.mem_append_left _ member⟩
    | cons first members induction =>
        intro entries entry member
        obtain ⟨key, known⟩ := induction _ entry member
        rcases List.mem_append.mp known with old | new
        · rcases Dictionary.mem_setEntries old with same | old
          · rw [(Prod.mk.inj same).2]
            exact ⟨first.1, List.mem_append_right _ List.mem_cons_self⟩
          · exact ⟨key, List.mem_append_left _ old⟩
        · exact ⟨key, List.mem_append_right _ (List.mem_cons_of_mem _ new)⟩
  exact fold members [] entry member

theorem returns_writeItems {separators : Separators} {levels : ℕ} {items : List (Value F)}
    (each : ∀ item ∈ items, Returns (write separators floats levels item)) :
    Returns (writeItems separators floats levels items) := by
  induction items with
  | nil => exact returns_ok _
  | cons item items induction =>
      obtain ⟨⟨chars, here⟩, others⟩ := List.forall_mem_cons.mp each
      obtain ⟨texts, there⟩ := induction others
      rw [writeItems, here, ok_bind, there]
      exact returns_ok _

theorem returns_writeMembers_iff {separators : Separators} {levels : ℕ}
    {members : List (Text × Value F)} :
    Returns (writeMembers separators floats levels members) ↔
      ∀ member ∈ members, Returns (write separators floats levels member.2) := by
  induction members with
  | nil => exact ⟨fun _ => nofun, fun _ => returns_ok _⟩
  | cons member members induction =>
      rw [List.forall_mem_cons, ← induction, writeMembers, returns_bind_iff]
      constructor
      · rintro ⟨chars, here, others⟩
        obtain ⟨texts, there, _⟩ := returns_bind_iff.mp others
        exact ⟨⟨chars, here⟩, texts, there⟩
      · rintro ⟨⟨chars, here⟩, texts, there⟩
        exact ⟨chars, here, by rw [there]; exact returns_ok _⟩

/-- An object is written when a call is left and each of its values is. -/
theorem returns_write_object_iff {separators : Separators} {levels : ℕ}
    {members : List (Text × Value F)} :
    Returns (write separators floats (levels + 1) (.object members)) ↔
      ∀ member ∈ members, Returns (write separators floats levels member.2) := by
  rw [← returns_writeMembers_iff, write]
  exact returns_bind_of_forall fun _ => returns_ok _

theorem returns_write_scalar (separators : Separators) (levels : ℕ) {text rest : Text}
    {value : Value F} (read : scanScalar floats text = .ok (value, rest)) :
    Returns (write separators floats levels value) := by
  rw [scanScalar] at read
  split at read
  · rename_i literal found
    cases read
    have known := List.mem_of_find?_eq_some found
    simp only [literals, List.map_cons, List.map_nil, List.cons_append, List.nil_append,
      List.mem_cons, List.not_mem_nil, or_false] at known
    rcases known with rfl | rfl | rfl | rfl | rfl | rfl
    · exact returns_ok _
    · exact returns_ok _
    · exact returns_ok _
    all_goals
      simp only [write]
      split
      · exact returns_ok _
      · exact returns_ok _
  · split at read
    · cases read
    · rename_i found
      split at read
      · rename_i number
        cases read
        exact returns_write_numberOf separators levels (scanWhole_of_scanNumeral found) number
      · cases read

/-- A value that has been read can be written with as many calls. -/
theorem returns_write_of_scanOnce (separators : Separators) {levels : ℕ} {text rest : Text}
    {value : Value F} (read : (scanOnce floats levels).run text = .ok (value, rest)) :
    Returns (write separators floats levels value) := by
  induction levels generalizing text rest value with
  | zero =>
      change scanValue floats none text = _ at read
      rcases scanValue_cases text with ⟨behind, rfl⟩ | ⟨behind, rfl⟩ | ⟨behind, rfl⟩ | scalar
      · obtain ⟨string, _, rfl⟩ := made_eq_ok_iff.mp read
        exact returns_ok _
      · cases read
      · cases read
      · rw [scalar] at read
        exact returns_write_scalar separators 0 read
  | succ levels induction =>
      change scanValue floats (some (scanOnce floats levels)) text = _ at read
      rcases scanValue_cases text with ⟨behind, rfl⟩ | ⟨behind, rfl⟩ | ⟨behind, rfl⟩ | scalar
      · obtain ⟨string, _, rfl⟩ := made_eq_ok_iff.mp read
        exact returns_ok _
      · obtain ⟨items, inner, rfl⟩ := made_eq_ok_iff.mp read
        rw [write, returns_bind_of_forall fun _ => returns_ok _]
        apply returns_writeItems
        intro item member
        obtain ⟨_, _, here⟩ := exists_of_scanEnclosed inner item member
        exact induction here
      · obtain ⟨members, inner, rfl⟩ := made_eq_ok_iff.mp read
        rw [returns_write_object_iff]
        intro entry member
        obtain ⟨key, known⟩ := exists_of_mem_dictionary member
        obtain ⟨place, _, here⟩ := exists_of_scanEnclosed inner _ known
        change scanMember (scanOnce floats levels) place = _ at here
        rw [scanMember] at here
        split at here
        · cases here
        · obtain ⟨_, here, same⟩ := made_eq_ok_iff.mp here
          cases same
          exact induction here
      · rw [scalar] at read
        exact returns_write_scalar separators _ read

/-- So can a text that is read as a whole. -/
theorem returns_write_of_loads (separators : Separators) {levels : ℕ} {text : Text}
    {value : Value F} (read : loads floats levels text = .ok value) :
    Returns (write separators floats levels value) := by
  rw [loads] at read
  split at read
  · cases read
  · split at read
    · cases read
    · rename_i scanned
      split at read
      · cases read
        exact returns_write_of_scanOnce separators scanned
      · cases read

end

end JsonText
end Library
