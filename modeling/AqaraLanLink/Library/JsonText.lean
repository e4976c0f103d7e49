import AqaraLanLink.Library.Dictionary
import AqaraLanLink.Library.Fallible
import Mathlib.Data.Int.Notation

/-!
# JSON texts

JSON values as texts, the way Python's `json` writes and reads them.  The writer puts everything in
ASCII; the reader takes any JSON text and a few constants besides.  Both go into nested values by
recursion, and give up when these are nested too deeply.  Floating-point numbers are a parameter.
-/

namespace Library
namespace JsonText

/-! ## Texts -/

/-- What a Python text is made of: characters, and the halves of surrogate pairs. -/
inductive CodePoint where
  | char (char : Char)
  | surrogate (half : Fin 0x800)
  deriving DecidableEq, Repr

abbrev Text := List CodePoint

/-- Characters as a text. -/
def ofChars (chars : List Char) : Text := chars.map .char

/-- A string as a text. -/
def ofString (string : String) : Text := ofChars string.toList

/-- The code point of a sixteen-bit unit. -/
def ofUnit (unit : ℕ) : CodePoint :=
  if 0xD800 ≤ unit ∧ unit ≤ 0xDFFF then .surrogate (.ofNat 0x800 (unit - 0xD800))
  else .char (Char.ofNat unit)

/-- The character of a surrogate pair. -/
def join? : CodePoint → CodePoint → Option CodePoint
  | .surrogate high, .surrogate low =>
      if high.val < 0x400 ∧ 0x400 ≤ low.val then
        some (.char (Char.ofNat (0x10000 + high.val * 0x400 + (low.val - 0x400))))
      else none
  | _, _ => none

/-! ## Values -/

/-- A JSON value; the keys of an object are those of a dictionary. -/
inductive Value (F : Type) where
  | null
  | bool (value : Bool)
  | int (value : ℤ)
  | float (value : F)
  | string (text : Text)
  | array (items : List (Value F))
  | object (members : List (Text × Value F))

/-- The constants that stand for no number. -/
inductive Constant where
  | nan
  | infinity
  | minusInfinity
  deriving DecidableEq, Repr

/-- A number as it is written. -/
structure Numeral where
  negative : Bool
  whole : List Char
  /-- The digits behind the point, if there are any. -/
  fraction : List Char
  /-- The sign of the exponent and its digits, if there are any. -/
  exponentSign : List Char
  exponent : List Char
  deriving DecidableEq, Repr

/-- A numeral as the grammar has it. -/
structure Numeral.Valid (numeral : Numeral) : Prop where
  whole : numeral.whole = ['0'] ∨ numeral.whole ≠ [] ∧ numeral.whole.head? ≠ some '0'
  wholeDigits : ∀ letter ∈ numeral.whole, letter.isDigit = true
  fraction : ∀ letter ∈ numeral.fraction, letter.isDigit = true
  sign : numeral.exponentSign = [] ∨ numeral.exponent ≠ [] ∧
    (numeral.exponentSign = ['+'] ∨ numeral.exponentSign = ['-'])
  exponent : ∀ letter ∈ numeral.exponent, letter.isDigit = true

/-- A numeral without a fraction or an exponent. -/
def Numeral.IsInt (numeral : Numeral) : Prop := numeral.fraction = [] ∧ numeral.exponent = []

instance (numeral : Numeral) : Decidable numeral.IsInt := instDecidableAnd

/-- Python's floating-point numbers: `float` gives back the number of which it gets the `repr`. -/
structure Floats (F : Type) where
  /-- `float` of a numeral. -/
  read : Numeral → F
  /-- The value of a constant. -/
  constant : Constant → F
  /-- What the encoder writes: `float.__repr__`, or a constant. -/
  repr : F → Numeral ⊕ Constant
  read_repr : ∀ value numeral, repr value = .inl numeral →
    numeral.Valid ∧ ¬ numeral.IsInt ∧ read numeral = value
  constant_repr : ∀ value named, repr value = .inr named → constant named = value

/-- Floating-point numbers of which there is only one. -/
def half : Floats Unit where
  read _ := ()
  constant _ := ()
  repr _ := .inl ⟨false, ['0'], ['5'], [], []⟩
  read_repr := by
    rintro _ _ ⟨⟩
    exact ⟨⟨Or.inl rfl, by simp, by simp, Or.inl rfl, nofun⟩, nofun, rfl⟩
  constant_repr := nofun

/-- Why a text is not read, or a value not written. -/
inductive Failure where
  /-- `JSONDecodeError`. -/
  | decode
  /-- `ValueError`: an integer has too many digits. -/
  | digits
  /-- `RecursionError`. -/
  | recursion
  deriving DecidableEq, Repr

/-- `sys.get_int_max_str_digits()`. -/
def maxDigits : ℕ := 4300

/-! ## Writing -/

/-- `\uXXXX`. -/
def escapeUnit (unit : ℕ) : List Char :=
  ['\\', 'u', Nat.digitChar (unit / 4096 % 16), Nat.digitChar (unit / 256 % 16),
    Nat.digitChar (unit / 16 % 16), Nat.digitChar (unit % 16)]

/-- `ascii_escape_unichar`. -/
def escape : CodePoint → List Char
  | .char '"' => ['\\', '"']
  | .char '\\' => ['\\', '\\']
  | .char '\n' => ['\\', 'n']
  | .char '\r' => ['\\', 'r']
  | .char '\t' => ['\\', 't']
  | .char '\x0C' => ['\\', 'f']
  | .char '\x08' => ['\\', 'b']
  | .char char =>
      if ' ' ≤ char ∧ char ≤ '~' then [char]
      else if char.toNat < 0x10000 then escapeUnit char.toNat
      else escapeUnit (0xD800 + (char.toNat - 0x10000) / 0x400) ++
        escapeUnit (0xDC00 + (char.toNat - 0x10000) % 0x400)
  | .surrogate half => escapeUnit (0xD800 + half.val)

/-- `py_encode_basestring_ascii`. -/
def writeString (text : Text) : List Char := '"' :: (text.flatMap escape ++ ['"'])

/-- `null`. -/
def writeNull : List Char := ['n', 'u', 'l', 'l']

/-- `true` and `false`. -/
def writeBool (value : Bool) : List Char :=
  if value then ['t', 'r', 'u', 'e'] else ['f', 'a', 'l', 's', 'e']

/-- `int.__repr__`. -/
def writeInt (value : ℤ) : List Char :=
  (if value < 0 then ['-'] else []) ++ Nat.toDigits 10 value.natAbs

def Numeral.text (numeral : Numeral) : List Char :=
  (if numeral.negative then ['-'] else []) ++ numeral.whole ++
    (if numeral.fraction = [] then [] else '.' :: numeral.fraction) ++
    (if numeral.exponent = [] then [] else 'e' :: (numeral.exponentSign ++ numeral.exponent))

def Constant.text : Constant → List Char
  | .nan => ['N', 'a', 'N']
  | .infinity => ['I', 'n', 'f', 'i', 'n', 'i', 't', 'y']
  | .minusInfinity => ['-', 'I', 'n', 'f', 'i', 'n', 'i', 't', 'y']

/-- Whitespace between two tokens. -/
def isSpace : CodePoint → Bool
  | .char letter => letter = ' ' ∨ letter = '\t' ∨ letter = '\n' ∨ letter = '\r'
  | .surrogate _ => false

/-- `separators`, each without the character that it begins with. -/
structure Separators where
  afterComma : List Char
  afterColon : List Char
  blank : ∀ letter ∈ afterComma ++ afterColon, isSpace (.char letter) = true

/-- `(",", ":")`. -/
def compact : Separators := ⟨[], [], fun _ member => absurd member List.not_mem_nil⟩

/-- `(", ", ": ")`, which is what the encoder takes by itself. -/
def standard : Separators := ⟨[' '], [' '], by simp [isSpace]⟩

variable {F : Type}

section
variable (separators : Separators)

/-- The texts of some items, with commas between them. -/
def joinItems : List (List Char) → List Char
  | [] => []
  | [text] => text
  | text :: texts => text ++ ',' :: (separators.afterComma ++ joinItems texts)

variable (floats : Floats F)

mutual

/-- `encoder_listencode_obj`, with so many calls to go on the stack. -/
def write (levels : ℕ) : Value F → Except Failure (List Char)
  | .null => .ok writeNull
  | .bool value => .ok (writeBool value)
  | .int value =>
      if maxDigits < (Nat.toDigits 10 value.natAbs).length then .error .digits
      else .ok (writeInt value)
  | .float value =>
      match floats.repr value with
      | .inl numeral => .ok numeral.text
      | .inr constant => .ok constant.text
  | .string text => .ok (writeString text)
  | .array items =>
      match levels with
      | 0 => .error .recursion
      | levels + 1 => do
          let texts ← writeItems levels items
          .ok ('[' :: (joinItems separators texts ++ [']']))
  | .object members =>
      match levels with
      | 0 => .error .recursion
      | levels + 1 => do
          let texts ← writeMembers levels members
          .ok ('{' :: (joinItems separators texts ++ ['}']))

def writeItems (levels : ℕ) : List (Value F) → Except Failure (List (List Char))
  | [] => .ok []
  | value :: values => do
      let text ← write levels value
      let texts ← writeItems levels values
      .ok (text :: texts)

def writeMembers (levels : ℕ) : List (Text × Value F) → Except Failure (List (List Char))
  | [] => .ok []
  | (key, value) :: members => do
      let text ← write levels value
      let texts ← writeMembers levels members
      .ok ((writeString key ++ ':' :: (separators.afterColon ++ text)) :: texts)

end

/-- `json.dumps`. -/
def dumps (levels : ℕ) (value : Value F) : Except Failure (List Char) :=
  write separators floats levels value

end

/-! ## Reading texts -/

/-- The value of a hexadecimal digit. -/
def hexValue? (char : Char) : Option ℕ :=
  if '0' ≤ char ∧ char ≤ '9' then some (char.toNat - '0'.toNat)
  else if 'a' ≤ char ∧ char ≤ 'f' then some (char.toNat - 'a'.toNat + 10)
  else if 'A' ≤ char ∧ char ≤ 'F' then some (char.toNat - 'A'.toNat + 10)
  else none

def CodePoint.hex? : CodePoint → Option ℕ
  | .char letter => hexValue? letter
  | .surrogate _ => none

/-- The code point of four hexadecimal digits. -/
def unit? (a b c d : CodePoint) : Option CodePoint := do
  let a ← a.hex?
  let b ← b.hex?
  let c ← c.hex?
  let d ← d.hex?
  some (ofUnit (a * 4096 + b * 256 + c * 16 + d))

/-- What a backslash and a letter stand for. -/
def escaped? (letter : Char) : Option Char :=
  match letter with
  | '"' => some '"'
  | '\\' => some '\\'
  | '/' => some '/'
  | 'b' => some '\x08'
  | 'f' => some '\x0C'
  | 'n' => some '\n'
  | 'r' => some '\r'
  | 't' => some '\t'
  | _ => none

/-- What is made of something that has been read. -/
def made {α β : Type} (make : α → β) : Except Failure (α × Text) → Except Failure (β × Text)
  | .ok (value, rest) => .ok (make value, rest)
  | .error failure => .error failure

@[simp] theorem made_ok {α β : Type} (make : α → β) (value : α) (rest : Text) :
    made make (.ok (value, rest)) = .ok (make value, rest) := rfl

/-- A high half in front of a text that begins with a low half makes a pair with it. -/
def pair (first : CodePoint) : Text → Text
  | [] => [first]
  | next :: text =>
      match join? first next with
      | some char => char :: text
      | none => first :: next :: text

/-- A text whose first code point has been read from four digits.  Only an escape pairs with it. -/
def keepUnit (first : CodePoint) (behind : Text) :
    Except Failure (Text × Text) → Except Failure (Text × Text)
  | .ok (text, rest) =>
      if behind.take 2 = [.char '\\', .char 'u'] then .ok (pair first text, rest)
      else .ok (first :: text, rest)
  | .error failure => .error failure

/-- `scanstring`, from behind the quote: the text, and what is left behind its closing quote. -/
def scanString : Text → Except Failure (Text × Text)
  | [] => .error .decode
  | .surrogate half :: text => made (.surrogate half :: ·) (scanString text)
  | .char '"' :: text => .ok ([], text)
  | .char '\\' :: .char 'u' :: a :: b :: c :: d :: text =>
      match unit? a b c d with
      | some first => keepUnit first text (scanString text)
      | none => .error .decode
  | .char '\\' :: .char letter :: text =>
      match escaped? letter with
      | some char => made (.char char :: ·) (scanString text)
      | none => .error .decode
  | .char '\\' :: _ => .error .decode
  | .char char :: text =>
      if char.toNat < 0x20 then .error .decode else made (.char char :: ·) (scanString text)

/-- What a reader leaves behind is shorter than a bound. -/
def Leaves {α : Type} (bound : ℕ) (result : Except Failure (α × Text)) : Prop :=
  ∀ value rest, result = .ok (value, rest) → rest.length < bound

section
variable {α : Type} {bound : ℕ} {value : α} {rest : Text}

theorem leaves_error (failure : Failure) :
    Leaves bound (.error failure : Except Failure (α × Text)) := nofun

theorem leaves_ok (shorter : rest.length < bound) : Leaves bound (.ok (value, rest)) := by
  rintro _ _ ⟨⟩
  exact shorter

theorem Leaves.mono {result : Except Failure (α × Text)} {bound' : ℕ} (leaves : Leaves bound result)
    (le : bound ≤ bound') : Leaves bound' result :=
  fun value rest same => Nat.lt_of_lt_of_le (leaves value rest same) le

theorem Leaves.made {β : Type} {result : Except Failure (α × Text)} (leaves : Leaves bound result)
    (make : α → β) : Leaves bound (made make result) := by
  cases result with
  | error failure => exact leaves_error failure
  | ok read => exact leaves_ok (leaves read.1 read.2 rfl)

theorem Leaves.keepUnit {result : Except Failure (Text × Text)} (leaves : Leaves bound result)
    (first : CodePoint) (behind : Text) :
    Leaves bound (keepUnit first behind result) := by
  cases result with
  | error failure => exact leaves_error failure
  | ok read =>
      have shorter := leaves read.1 read.2 rfl
      rw [JsonText.keepUnit]
      split
      · exact leaves_ok shorter
      · exact leaves_ok shorter

end

theorem leaves_scanString (text : Text) : Leaves text.length (scanString text) := by
  fun_induction scanString text with
  | case1 => exact leaves_error .decode
  | case2 half text induction => exact (induction.mono (Nat.le_succ _)).made _
  | case3 text => exact leaves_ok (Nat.lt_succ_self _)
  | case4 a b c d text first _ induction => exact (induction.mono (by simp; omega)).keepUnit _ _
  | case5 => exact leaves_error .decode
  | case6 letter text _ char _ induction => exact (induction.mono (by simp; omega)).made _
  | case7 => exact leaves_error .decode
  | case8 => exact leaves_error .decode
  | case9 => exact leaves_error .decode
  | case10 char text _ _ _ _ _ induction => exact (induction.mono (Nat.le_succ _)).made _

/-! ## Reading numbers -/

/-- The digits that a text begins with. -/
def spanDigits : Text → List Char × Text
  | .char char :: text =>
      if char.isDigit then (char :: (spanDigits text).1, (spanDigits text).2)
      else ([], .char char :: text)
  | text => ([], text)

/-- The whole digits of a number: a zero, or a number that does not begin with one. -/
def scanWhole (text : Text) : List Char × Text :=
  match text with
  | .char '0' :: text => (['0'], text)
  | text => spanDigits text

/-- The digits behind a point, or nothing. -/
def scanFraction (text : Text) : List Char × Text :=
  match text with
  | .char '.' :: text' => if (spanDigits text').1 = [] then ([], text) else spanDigits text'
  | text => ([], text)

/-- A sign, or nothing. -/
def scanSign (text : Text) : List Char × Text :=
  match text with
  | .char '+' :: text => (['+'], text)
  | .char '-' :: text => (['-'], text)
  | text => ([], text)

/-- The exponent, by its sign and its digits, or nothing. -/
def scanExponent (text : Text) : List Char × List Char × Text :=
  match text with
  | .char 'e' :: text' | .char 'E' :: text' =>
      if (spanDigits (scanSign text').2).1 = [] then ([], [], text)
      else ((scanSign text').1, spanDigits (scanSign text').2)
  | text => ([], [], text)

/-- A minus, or nothing. -/
def scanMinus (text : Text) : Bool × Text :=
  match text with
  | .char '-' :: text => (true, text)
  | text => (false, text)

/-- `_match_number_unicode`: the numeral that a text begins with. -/
def scanNumeral (text : Text) : Option (Numeral × Text) :=
  let signed := scanMinus text
  let whole := scanWhole signed.2
  let fraction := scanFraction whole.2
  let exponent := scanExponent fraction.2
  if whole.1 = [] then none
  else some (⟨signed.1, whole.1, fraction.1, exponent.1, exponent.2.1⟩, exponent.2.2)

/-- The value of a numeral: an integer, unless it has a fraction or an exponent. -/
def numberOf {F : Type} (floats : Floats F) (numeral : Numeral) : Except Failure (Value F) :=
  if numeral.IsInt then
    if maxDigits < numeral.whole.length then .error .digits
    else
      .ok (.int ((if numeral.negative then -1 else 1) * Nat.ofDigitChars 10 numeral.whole 0))
  else .ok (.float (floats.read numeral))

theorem length_spanDigits (text : Text) :
    (spanDigits text).1.length + (spanDigits text).2.length = text.length := by
  fun_induction spanDigits text with
  | case1 char text _ induction =>
      simp only [List.length_cons]
      omega
  | case2 => exact Nat.zero_add _
  | case3 => exact Nat.zero_add _

theorem length_scanWhole (text : Text) :
    (scanWhole text).1.length + (scanWhole text).2.length = text.length := by
  fun_cases scanWhole text with
  | case1 text => exact Nat.add_comm 1 _
  | case2 => exact length_spanDigits text

theorem length_scanFraction_le (text : Text) : (scanFraction text).2.length ≤ text.length := by
  fun_cases scanFraction text with
  | case1 => exact Nat.le_refl _
  | case2 text _ =>
      have whole := length_spanDigits text
      rw [List.length_cons]
      omega
  | case3 => exact Nat.le_refl _

theorem length_scanSign_le (text : Text) : (scanSign text).2.length ≤ text.length := by
  fun_cases scanSign text with
  | case1 text => exact Nat.le_succ _
  | case2 text => exact Nat.le_succ _
  | case3 => exact Nat.le_refl _

theorem length_scanExponent_le (text : Text) : (scanExponent text).2.2.length ≤ text.length := by
  fun_cases scanExponent text with
  | case1 => exact Nat.le_refl _
  | case2 text _ =>
      have whole := length_spanDigits (scanSign text).2
      have signed := length_scanSign_le text
      simp only [List.length_cons]
      omega
  | case3 => exact Nat.le_refl _
  | case4 text _ =>
      have whole := length_spanDigits (scanSign text).2
      have signed := length_scanSign_le text
      simp only [List.length_cons]
      omega
  | case5 => exact Nat.le_refl _

theorem length_scanMinus_le (text : Text) : (scanMinus text).2.length ≤ text.length := by
  fun_cases scanMinus text with
  | case1 text => exact Nat.le_succ _
  | case2 => exact Nat.le_refl _

theorem length_scanNumeral_lt {text rest : Text} {numeral : Numeral}
    (found : scanNumeral text = some (numeral, rest)) : rest.length < text.length := by
  have signed := length_scanMinus_le text
  have whole := length_scanWhole (scanMinus text).2
  have fraction := length_scanFraction_le (scanWhole (scanMinus text).2).2
  have exponent := length_scanExponent_le (scanFraction (scanWhole (scanMinus text).2).2).2
  simp only [scanNumeral] at found
  split at found
  · cases found
  · rename_i some
    cases found
    have positive := List.length_pos_iff.mpr some
    omega

/-! ## Reading values -/

/-- Go past the whitespace between two tokens. -/
def skipSpace (text : Text) : Text := text.dropWhile isSpace

theorem length_skipSpace_le (text : Text) : (skipSpace text).length ≤ text.length :=
  (List.dropWhile_suffix _).length_le

/-- Reads something off the front of a text. -/
structure Scanner (α : Type) where
  run : Text → Except Failure (α × Text)
  shorter : ∀ text, Leaves text.length (run text)

section
variable {α : Type}

/-- The loops of `_parse_array_unicode` and `_parse_object_unicode`: at least one item, then the
closing bracket. -/
def scanItems (close : Char) (item : Scanner α) (text : Text) : Except Failure (List α × Text) :=
  match _ : item.run text with
  | .error failure => .error failure
  | .ok (value, rest) =>
      match _ : skipSpace rest with
      | .char next :: after =>
          if next = close then .ok ([value], after)
          else if next = ',' then made (value :: ·) (scanItems close item (skipSpace after))
          else .error .decode
      | _ => .error .decode
  termination_by text.length
  decreasing_by
    rename_i scanned behind _ _
    have shorter := item.shorter text _ _ scanned
    have skipped := length_skipSpace_le rest
    have skipped' := length_skipSpace_le after
    rw [behind, List.length_cons] at skipped
    omega

/-- The items between two brackets, from behind the opening one. -/
def scanEnclosed (close : Char) (item : Scanner α) (text : Text) :
    Except Failure (List α × Text) :=
  if (skipSpace text).head? = some (.char close) then .ok ([], (skipSpace text).tail)
  else scanItems close item (skipSpace text)

/-- A key and a colon: the key, and where its value begins. -/
def scanKey (text : Text) : Except Failure (Text × Text) :=
  match text with
  | .char '"' :: text =>
      match scanString text with
      | .error failure => .error failure
      | .ok (key, rest) =>
          match skipSpace rest with
          | .char ':' :: after => .ok (key, skipSpace after)
          | _ => .error .decode
  | _ => .error .decode

/-- A key, a colon and a value. -/
def scanMember (value : Scanner α) (text : Text) : Except Failure ((Text × α) × Text) :=
  match scanKey text with
  | .error failure => .error failure
  | .ok (key, place) => made (fun value => (key, value)) (value.run place)

end

section
variable {α : Type} {item value : Scanner α}

theorem leaves_scanItems (close : Char) (item : Scanner α) (text : Text) :
    Leaves text.length (scanItems close item text) := by
  fun_induction scanItems close item text with
  | case1 => exact leaves_error _
  | case2 text value rest scanned after behind =>
      have shorter := item.shorter text _ _ scanned
      have skipped := length_skipSpace_le rest
      rw [behind, List.length_cons] at skipped
      exact leaves_ok (by omega)
  | case3 text value rest scanned after behind _ induction =>
      have shorter := item.shorter text _ _ scanned
      have skipped := length_skipSpace_le rest
      have skipped' := length_skipSpace_le after
      rw [behind, List.length_cons] at skipped
      exact (induction.mono (by omega)).made _
  | case4 => exact leaves_error _
  | case5 => exact leaves_error _

theorem leaves_scanEnclosed (close : Char) (item : Scanner α) (text : Text) :
    Leaves (text.length + 1) (scanEnclosed close item text) := by
  have skipped := length_skipSpace_le text
  rw [scanEnclosed]
  split
  · exact leaves_ok (by rw [List.length_tail]; omega)
  · exact (leaves_scanItems _ _ _).mono (by omega)

theorem leaves_scanKey (text : Text) : Leaves text.length (scanKey text) := by
  fun_cases scanKey text with
  | case1 => exact leaves_error _
  | case2 text key rest read after behind =>
      have shorter := leaves_scanString text _ _ read
      have skipped := length_skipSpace_le rest
      have skipped' := length_skipSpace_le after
      rw [behind, List.length_cons] at skipped
      exact leaves_ok (by rw [List.length_cons]; omega)
  | case3 => exact leaves_error _
  | case4 => exact leaves_error _

theorem leaves_scanMember (value : Scanner α) (text : Text) :
    Leaves text.length (scanMember value text) := by
  fun_cases scanMember value text with
  | case1 => exact leaves_error _
  | case2 key place read =>
      have shorter := leaves_scanKey text _ _ read
      exact ((value.shorter place).mono (by omega)).made _

end

/-- A key with its value. -/
def memberScanner {α : Type} (value : Scanner α) : Scanner (Text × α) where
  run := scanMember value
  shorter := leaves_scanMember value

/-- The constants of JSON, and the ones that the decoder knows besides. -/
def literals {F : Type} (floats : Floats F) : List (List Char × Value F) :=
  [(writeNull, .null), (writeBool true, .bool true), (writeBool false, .bool false)] ++
    [Constant.nan, .infinity, .minusInfinity].map fun constant =>
      (constant.text, .float (floats.constant constant))

/-- A constant or a number. -/
def scanScalar {F : Type} (floats : Floats F) (text : Text) : Except Failure (Value F × Text) :=
  match (literals floats).find? fun literal => (ofChars literal.1).isPrefixOf text with
  | some literal => .ok (literal.2, text.drop literal.1.length)
  | none =>
      match scanNumeral text with
      | none => .error .decode
      | some (numeral, rest) =>
          match numberOf floats numeral with
          | .ok value => .ok (value, rest)
          | .error failure => .error failure

/-- The dictionary of some members: a key keeps its first place and its last value. -/
def dictionary {F : Type} (members : List (Text × Value F)) : List (Text × Value F) :=
  members.foldl (fun entries member => Dictionary.setEntries entries member.1 member.2) []

/-- The cases of `scan_once_unicode`, given how nested values are read. -/
def scanValue {F : Type} (floats : Floats F) (nested : Option (Scanner (Value F))) (text : Text) :
    Except Failure (Value F × Text) :=
  match text, nested with
  | .char '"' :: text, _ => made .string (scanString text)
  | .char '[' :: text, some value => made .array (scanEnclosed ']' value text)
  | .char '{' :: text, some value =>
      made (fun members => .object (dictionary members)) (scanEnclosed '}' (memberScanner value) text)
  | .char '[' :: _, none => .error .recursion
  | .char '{' :: _, none => .error .recursion
  | text, _ => scanScalar floats text

theorem leaves_scanScalar {F : Type} (floats : Floats F) (text : Text) :
    Leaves text.length (scanScalar floats text) := by
  fun_cases scanScalar floats text with
  | case1 literal found =>
      have begins := List.find?_some found
      have long := (List.isPrefixOf_iff_prefix.mp begins).length_le
      have some : 0 < literal.1.length := by
        have all : ∀ literal ∈ literals floats, 0 < literal.1.length := by
          simp [literals, writeNull, writeBool, Constant.text]
        exact all literal (List.mem_of_find?_eq_some found)
      rw [ofChars, List.length_map] at long
      exact leaves_ok (by rw [List.length_drop]; omega)
  | case2 => exact leaves_error _
  | case3 _ numeral rest found value => exact leaves_ok (length_scanNumeral_lt found)
  | case4 => exact leaves_error _

theorem leaves_scanValue {F : Type} (floats : Floats F) (nested : Option (Scanner (Value F)))
    (text : Text) : Leaves text.length (scanValue floats nested text) := by
  fun_cases scanValue floats nested text with
  | case1 _ text => exact ((leaves_scanString text).mono (Nat.le_succ _)).made _
  | case2 text value => exact (leaves_scanEnclosed _ _ text).made _
  | case3 text value => exact (leaves_scanEnclosed _ _ text).made _
  | case4 => exact leaves_error _
  | case5 => exact leaves_error _
  | case6 => exact leaves_scanScalar floats _

/-- `scan_once_unicode`, with so many calls to go on the stack. -/
def scanOnce {F : Type} (floats : Floats F) : ℕ → Scanner (Value F)
  | 0 => ⟨scanValue floats none, leaves_scanValue floats none⟩
  | levels + 1 =>
      ⟨scanValue floats (some (scanOnce floats levels)), leaves_scanValue floats _⟩

/-- `json.loads`. -/
def loads {F : Type} (floats : Floats F) (levels : ℕ) (text : Text) : Except Failure (Value F) :=
  if text.head? = some (.char '\uFEFF') then .error .decode
  else
    match (scanOnce floats levels).run (skipSpace text) with
    | .error failure => .error failure
    | .ok (value, rest) => if skipSpace rest = [] then .ok value else .error .decode

end JsonText
end Library
