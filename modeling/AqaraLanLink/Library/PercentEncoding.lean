import AqaraLanLink.Library.AsciiCase
import AqaraLanLink.Library.JsonText
import AqaraLanLink.Library.Utf8

/-!
# Percent encoding

Texts whose bytes are written as letters that may stand in a URL, the way `urllib.parse` of Python
quotes and unquotes them.  A text that was quoted is read back, whatever it holds.
-/

namespace Library
namespace PercentEncoding

open AsciiCase
open JsonText (CodePoint Text ofChars ofString hexValue?)

/-! ## Quoting -/

/-- A letter that stands for itself. -/
def isUnreserved (char : Char) : Bool :=
  char.isAlphanum || char == '_' || char == '.' || char == '-' || char == '~'

/-- A digit in upper case. -/
def hexDigit (value : ℕ) : Char :=
  if value < 10 then Char.ofNat ('0'.toNat + value) else Char.ofNat ('A'.toNat + (value - 10))

def quoteByte (byte : UInt8) : List Char :=
  if isUnreserved (Char.ofNat byte.toNat) then [Char.ofNat byte.toNat]
  else ['%', hexDigit (byte.toNat / 16), hexDigit (byte.toNat % 16)]

/-- The characters of a text, unless half a surrogate pair stands in it. -/
def characters? : Text → Option (List Char)
  | [] => some []
  | .char char :: text => (characters? text).map (char :: ·)
  | .surrogate _ :: _ => none

/-- `quote`, with no letter safe besides.  It does not encode half a surrogate pair. -/
def quote (text : Text) : Option (List Char) :=
  (characters? text).map fun chars => (chars.flatMap String.utf8EncodeChar).flatMap quoteByte

/-! ## Unquoting -/

/-- `unquote_to_bytes` of a text in ASCII. -/
def unquoteToBytes : List Char → List UInt8
  | [] => []
  | '%' :: high :: low :: text =>
      match hexValue? high, hexValue? low with
      | some high, some low => UInt8.ofNat (high * 16 + low) :: unquoteToBytes text
      | _, _ => UInt8.ofNat '%'.toNat :: unquoteToBytes (high :: low :: text)
  | char :: text => UInt8.ofNat char.toNat :: unquoteToBytes text

def isAscii : CodePoint → Bool
  | .char char => char.toNat < 128
  | .surrogate _ => false

/-- A run of letters in ASCII, unquoted. -/
def unquoteRun (run : List Char) : Text := ofString (Utf8.decode (unquoteToBytes run))

/-- Unquote run by run; what is not ASCII stays. -/
def unquoteFrom (run : List Char) : Text → Text
  | [] => unquoteRun run
  | .char char :: text =>
      if char.toNat < 128 then unquoteFrom (run ++ [char]) text
      else unquoteRun run ++ .char char :: unquoteFrom [] text
  | .surrogate half :: text => unquoteRun run ++ .surrogate half :: unquoteFrom [] text

/-- `unquote`. -/
def unquote (text : Text) : Text := unquoteFrom [] text

/-! ## Characters -/

theorem eq_ofChars {text : Text} {chars : List Char} (all : characters? text = some chars) :
    text = ofChars chars := by
  induction text generalizing chars with
  | nil =>
      cases all
      rfl
  | cons first text induction =>
      cases first with
      | char char =>
          rw [characters?] at all
          obtain ⟨others, rest, rfl⟩ := Option.map_eq_some_iff.mp all
          rw [induction rest]
          rfl
      | surrogate half => cases all

theorem exists_ofChars {text : Text} (ascii : ∀ letter ∈ text, isAscii letter = true) :
    ∃ chars, text = ofChars chars ∧ ∀ char ∈ chars, char.toNat < 128 := by
  induction text with
  | nil => exact ⟨[], rfl, fun _ none => absurd none List.not_mem_nil⟩
  | cons first text induction =>
      obtain ⟨here, later⟩ := List.forall_mem_cons.mp ascii
      obtain ⟨chars, rfl, small⟩ := induction later
      cases first with
      | char char =>
          exact ⟨char :: chars, rfl, List.forall_mem_cons.mpr ⟨of_decide_eq_true here, small⟩⟩
      | surrogate half => cases here

/-! ## What quoting writes -/

/-- A letter of a quoted text. -/
def IsQuoted (char : Char) : Prop := isUnreserved char = true ∨ char = '%'

theorem hexDigit_ofFin (digit : Fin 16) :
    hexValue? (hexDigit digit) = some digit.val ∧ isUnreserved (hexDigit digit) = true := by
  revert digit
  decide

theorem hexValue?_hexDigit {digit : ℕ} (small : digit < 16) :
    hexValue? (hexDigit digit) = some digit :=
  (hexDigit_ofFin ⟨digit, small⟩).1

theorem isUnreserved_hexDigit {digit : ℕ} (small : digit < 16) :
    isUnreserved (hexDigit digit) = true :=
  (hexDigit_ofFin ⟨digit, small⟩).2

theorem ascii_of_isUnreserved {char : Char} (plain : isUnreserved char = true) :
    char.toNat < 128 := by
  simp only [isUnreserved, Bool.or_eq_true, isAlphanum_iff, isAlpha_iff, isUpper_iff, isLower_iff,
    Char.isDigit_iff_toNat, beq_iff_eq] at plain
  rcases plain with (((((upper | lower) | digit) | rfl) | rfl) | rfl) | rfl
  · omega
  · omega
  · exact Nat.lt_of_le_of_lt digit.2 (by decide)
  all_goals decide

theorem ascii_of_isQuoted {char : Char} (quoted : IsQuoted char) : char.toNat < 128 := by
  rcases quoted with plain | rfl
  · exact ascii_of_isUnreserved plain
  · decide

theorem ne_percent_of_isUnreserved {char : Char} (plain : isUnreserved char = true) :
    char ≠ '%' := by
  rintro rfl
  exact absurd plain (by decide)

theorem isQuoted_of_mem_quoteByte {byte : UInt8} {char : Char} (member : char ∈ quoteByte byte) :
    IsQuoted char := by
  have high : byte.toNat / 16 < 16 := by
    have bound := byte.toNat_lt
    omega
  rw [quoteByte] at member
  split at member
  · next plain =>
    obtain rfl := List.mem_singleton.mp member
    exact .inl plain
  · simp only [List.mem_cons, List.not_mem_nil, or_false] at member
    rcases member with rfl | rfl | rfl
    · exact .inr rfl
    · exact .inl (isUnreserved_hexDigit high)
    · exact .inl (isUnreserved_hexDigit (Nat.mod_lt _ (by omega)))

theorem isQuoted_of_mem_quote {text : Text} {quoted : List Char} (writes : quote text = some quoted)
    {char : Char} (member : char ∈ quoted) : IsQuoted char := by
  obtain ⟨chars, -, rfl⟩ := Option.map_eq_some_iff.mp writes
  obtain ⟨byte, -, here⟩ := List.mem_flatMap.mp member
  exact isQuoted_of_mem_quoteByte here

/-! ## Reading back -/

theorem unquoteToBytes_plain {char : Char} (other : char ≠ '%') (text : List Char) :
    unquoteToBytes (char :: text) = UInt8.ofNat char.toNat :: unquoteToBytes text := by
  rw [unquoteToBytes]
  exact fun _ _ _ same _ => other same

theorem unquoteToBytes_escape {high low : ℕ} (highSmall : high < 16) (lowSmall : low < 16)
    (text : List Char) : unquoteToBytes ('%' :: hexDigit high :: hexDigit low :: text) =
      UInt8.ofNat (high * 16 + low) :: unquoteToBytes text := by
  rw [unquoteToBytes]
  simp only [hexValue?_hexDigit highSmall, hexValue?_hexDigit lowSmall]

theorem unquoteToBytes_quoteByte (byte : UInt8) (text : List Char) :
    unquoteToBytes (quoteByte byte ++ text) = byte :: unquoteToBytes text := by
  have bound := byte.toNat_lt
  rw [quoteByte]
  split
  · next plain =>
    have code : (Char.ofNat byte.toNat).toNat = byte.toNat := by
      have valid : byte.toNat.isValidChar := .inl (by omega)
      rw [Char.ofNat, dif_pos valid]
      rfl
    rw [List.singleton_append, unquoteToBytes_plain (ne_percent_of_isUnreserved plain), code,
      UInt8.ofNat_toNat]
  · have whole : byte.toNat / 16 * 16 + byte.toNat % 16 = byte.toNat := by omega
    rw [List.cons_append, List.cons_append, List.cons_append, List.nil_append,
      unquoteToBytes_escape (by omega) (by omega), whole, UInt8.ofNat_toNat]

theorem unquoteToBytes_quoteBytes (bytes : List UInt8) :
    unquoteToBytes (bytes.flatMap quoteByte) = bytes := by
  induction bytes with
  | nil => rfl
  | cons byte bytes induction =>
      rw [List.flatMap_cons, unquoteToBytes_quoteByte, induction]

/-- A text in ASCII is one run. -/
theorem unquoteFrom_ofChars (run : List Char) {chars : List Char}
    (ascii : ∀ char ∈ chars, char.toNat < 128) :
    unquoteFrom run (ofChars chars) = unquoteRun (run ++ chars) := by
  induction chars generalizing run with
  | nil =>
      rw [List.append_nil]
      rfl
  | cons char chars induction =>
      obtain ⟨here, later⟩ := List.forall_mem_cons.mp ascii
      have step : unquoteFrom run (ofChars (char :: chars)) =
          unquoteFrom (run ++ [char]) (ofChars chars) := if_pos here
      rw [step, induction (run ++ [char]) later, List.append_assoc, List.singleton_append]

/-- What was quoted is read back. -/
theorem unquote_quote {text : Text} {quoted : List Char} (writes : quote text = some quoted) :
    unquote (ofChars quoted) = text := by
  have ascii : ∀ char ∈ quoted, char.toNat < 128 := fun _ member =>
    ascii_of_isQuoted (isQuoted_of_mem_quote writes member)
  obtain ⟨chars, all, rfl⟩ := Option.map_eq_some_iff.mp writes
  have bytes : Utf8.encode (String.ofList chars) = chars.flatMap String.utf8EncodeChar := by
    rw [Utf8.encode, String.toList_ofList]
  rw [unquote, unquoteFrom_ofChars [] ascii, List.nil_append, unquoteRun,
    unquoteToBytes_quoteBytes, ← bytes, Utf8.decode_encode, ofString, String.toList_ofList]
  exact (eq_ofChars all).symm

theorem quote_nil : quote [] = some [] := rfl

theorem unquoteToBytes_ne_nil (char : Char) (text : List Char) :
    unquoteToBytes (char :: text) ≠ [] := by
  unfold unquoteToBytes
  split
  · next none => cases none
  · split
    · exact List.cons_ne_nil _ _
    · exact List.cons_ne_nil _ _
  · exact List.cons_ne_nil _ _

theorem unquoteRun_ne_nil {run : List Char} (some : run ≠ []) : unquoteRun run ≠ [] := by
  obtain ⟨char, text, rfl⟩ := List.exists_cons_of_ne_nil some
  have read := Utf8.decodeFrom_ne_nil none (.inr (unquoteToBytes_ne_nil char text))
  rw [unquoteRun, Utf8.decode, ofString, String.toList_ofList]
  exact fun none => read (List.map_eq_nil_iff.mp none)

theorem unquoteFrom_ne_nil {run : List Char} {text : Text} (some : run ≠ [] ∨ text ≠ []) :
    unquoteFrom run text ≠ [] := by
  induction text generalizing run with
  | nil => exact unquoteRun_ne_nil (some.resolve_right fun given => given rfl)
  | cons first text induction =>
      cases first with
      | char char =>
          rw [unquoteFrom]
          split
          · exact induction (.inl (List.append_ne_nil_of_right_ne_nil _ (List.cons_ne_nil _ _)))
          · exact List.append_ne_nil_of_right_ne_nil _ (List.cons_ne_nil _ _)
      | surrogate half => exact List.append_ne_nil_of_right_ne_nil _ (List.cons_ne_nil _ _)

/-- Only the empty text is unquoted to nothing. -/
theorem unquote_ne_nil {text : Text} (some : text ≠ []) : unquote text ≠ [] :=
  unquoteFrom_ne_nil (.inr some)

end PercentEncoding
end Library
