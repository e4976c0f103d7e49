import Mathlib.Data.Nat.Notation

/-!
# UTF-8

Texts as bytes, and bytes as texts.  A reader that never refuses puts the replacement character for
every part of the input that begins no character; a strict reader refuses such an input.
-/

namespace Library
namespace Utf8

/-- The bytes of a text. -/
def encode (text : String) : List UInt8 :=
  text.toList.flatMap String.utf8EncodeChar

/-- What stands for bytes that are no character. -/
def replacement : Char := Char.ofNat 0xFFFD

/-- A character that has begun. -/
structure Pending where
  /-- How many bytes are still to come. -/
  needed : ℕ
  /-- The bits so far. -/
  value : ℕ
  /-- The least byte that may come next. -/
  low : ℕ
  /-- The greatest one. -/
  high : ℕ

/-- Read the first byte of a character. -/
def first (byte : ℕ) : Char ⊕ Pending :=
  if byte ≤ 0x7F then .inl (Char.ofNat byte)
  else if 0xC2 ≤ byte ∧ byte ≤ 0xDF then .inr ⟨1, byte - 0xC0, 0x80, 0xBF⟩
  else if byte = 0xE0 then .inr ⟨2, 0, 0xA0, 0xBF⟩
  else if 0xE1 ≤ byte ∧ byte ≤ 0xEF then
    .inr ⟨2, byte - 0xE0, 0x80, if byte = 0xED then 0x9F else 0xBF⟩
  else if byte = 0xF0 then .inr ⟨3, 0, 0x90, 0xBF⟩
  else if 0xF1 ≤ byte ∧ byte ≤ 0xF4 then
    .inr ⟨3, byte - 0xF0, 0x80, if byte = 0xF4 then 0x8F else 0xBF⟩
  else .inl replacement

/-- Read the rest of the input, inside a character or between two. -/
def decodeFrom : Option Pending → List UInt8 → List Char
  | none, [] => []
  | some _, [] => [replacement]
  | none, byte :: bytes =>
      match first byte.toNat with
      | .inl char => char :: decodeFrom none bytes
      | .inr pending => decodeFrom (some pending) bytes
  | some pending, byte :: bytes =>
      let value := pending.value * 64 + byte.toNat % 64
      if pending.low ≤ byte.toNat ∧ byte.toNat ≤ pending.high then
        if pending.needed = 1 then Char.ofNat value :: decodeFrom none bytes
        else decodeFrom (some ⟨pending.needed - 1, value, 0x80, 0xBF⟩) bytes
      else
        -- The character breaks off here, and the byte begins the next one.
        match first byte.toNat with
        | .inl char => replacement :: char :: decodeFrom none bytes
        | .inr pending => replacement :: decodeFrom (some pending) bytes

/-- Read bytes as a text, whatever they are. -/
def decode (bytes : List UInt8) : String :=
  String.ofList (decodeFrom none bytes)

/-- Read bytes as a text, if they are one. -/
def decode? (bytes : List UInt8) : Option String :=
  if encode (decode bytes) = bytes then some (decode bytes) else none

theorem decodeFrom_first {byte : UInt8} {bytes : List UInt8} {pending : Pending}
    (begins : first byte.toNat = .inr pending) :
    decodeFrom none (byte :: bytes) = decodeFrom (some pending) bytes := by
  rw [decodeFrom, begins]

theorem decodeFrom_next {byte : UInt8} {bytes : List UInt8} {pending : Pending}
    (low : pending.low ≤ byte.toNat) (high : byte.toNat ≤ pending.high)
    (more : pending.needed ≠ 1) :
    decodeFrom (some pending) (byte :: bytes) =
      decodeFrom (some ⟨pending.needed - 1, pending.value * 64 + byte.toNat % 64, 0x80, 0xBF⟩)
        bytes := by
  rw [decodeFrom, if_pos ⟨low, high⟩, if_neg more]

theorem decodeFrom_last {byte : UInt8} {bytes : List UInt8} {pending : Pending}
    (low : pending.low ≤ byte.toNat) (high : byte.toNat ≤ pending.high)
    (last : pending.needed = 1) :
    decodeFrom (some pending) (byte :: bytes) =
      Char.ofNat (pending.value * 64 + byte.toNat % 64) :: decodeFrom none bytes := by
  rw [decodeFrom, if_pos ⟨low, high⟩, if_pos last]

theorem toNat_byte {code : ℕ} (small : code < 256) : (UInt8.ofNat code).toNat = code :=
  UInt8.toNat_ofNat_of_lt' small

theorem toNat_continuation (code : ℕ) :
    (UInt8.ofNat (code % 64 + 128)).toNat = code % 64 + 128 :=
  toNat_byte (by omega)

/-- The first byte of three leaves room for the second one. -/
theorem first_of_three {code : ℕ} (valid : code < 0xD800 ∨ 0xDFFF < code) (more : 0x7FF < code)
    (less : code ≤ 0xFFFF) : ∃ low high, first (code / 4096 + 224) = .inr ⟨2, code / 4096, low, high⟩ ∧
      low ≤ code / 64 % 64 + 128 ∧ code / 64 % 64 + 128 ≤ high := by
  rw [first, if_neg (by omega), if_neg (by omega)]
  by_cases zero : code / 4096 = 0
  · refine ⟨0xA0, 0xBF, ?_, by omega, by omega⟩
    rw [if_pos (by omega), zero]
  · refine ⟨0x80, if code / 4096 + 224 = 0xED then 0x9F else 0xBF, ?_, by omega, ?_⟩
    · rw [if_neg (by omega), if_pos (by omega), Nat.add_sub_cancel]
    · split
      · omega
      · omega

/-- The first byte of four leaves room for the second one. -/
theorem first_of_four {code : ℕ} (more : 0xFFFF < code) (less : code < 0x110000) :
    ∃ low high, first (code / 262144 + 240) = .inr ⟨3, code / 262144, low, high⟩ ∧
      low ≤ code / 4096 % 64 + 128 ∧ code / 4096 % 64 + 128 ≤ high := by
  rw [first, if_neg (by omega), if_neg (by omega), if_neg (by omega), if_neg (by omega)]
  by_cases zero : code / 262144 = 0
  · refine ⟨0x90, 0xBF, ?_, by omega, by omega⟩
    rw [if_pos (by omega), zero]
  · refine ⟨0x80, if code / 262144 + 240 = 0xF4 then 0x8F else 0xBF, ?_, by omega, ?_⟩
    · rw [if_neg (by omega), if_pos (by omega), Nat.add_sub_cancel]
    · split
      · omega
      · omega

/-- A character is read back from its bytes. -/
theorem decodeFrom_encodeChar (char : Char) (bytes : List UInt8) :
    decodeFrom none (String.utf8EncodeChar char ++ bytes) = char :: decodeFrom none bytes := by
  obtain ⟨code, same⟩ : ∃ code, char.val.toNat = code := ⟨_, rfl⟩
  have valid : code < 0xD800 ∨ 0xDFFF < code ∧ code < 0x110000 := same ▸ char.valid
  have back : Char.ofNat code = char := same ▸ Char.ofNat_toNat char
  have last := toNat_continuation code
  have third := toNat_continuation (code / 64)
  have second := toNat_continuation (code / 4096)
  simp only [String.utf8EncodeChar, same]
  split
  · have begins : first (UInt8.ofNat code).toNat = .inl char := by
      rw [toNat_byte (by omega), first, if_pos ‹_›, back]
    rw [List.cons_append, List.nil_append, decodeFrom, begins]
  split
  · have head : (UInt8.ofNat (code / 64 % 32 + 192)).toNat = code / 64 + 192 := by
      rw [toNat_byte (by omega)]
      omega
    have begins : first (code / 64 + 192) = .inr ⟨1, code / 64, 0x80, 0xBF⟩ := by
      rw [first, if_neg (by omega), if_pos (by omega), Nat.add_sub_cancel]
    have value : code / 64 * 64 + (code % 64 + 128) % 64 = code := by omega
    rw [List.cons_append, decodeFrom_first (head.symm ▸ begins), List.cons_append,
      decodeFrom_last (by simp only [last]; omega) (by simp only [last]; omega) rfl, last]
    simp only [value, back, List.nil_append]
  split
  · have head : (UInt8.ofNat (code / 4096 % 16 + 224)).toNat = code / 4096 + 224 := by
      rw [toNat_byte (by omega)]
      omega
    obtain ⟨low, high, begins, above, below⟩ := first_of_three (show code < 0xD800 ∨ 0xDFFF < code by omega)
      (by omega) (by omega)
    have value : (code / 4096 * 64 + (code / 64 % 64 + 128) % 64) * 64 + (code % 64 + 128) % 64 =
        code := by omega
    rw [List.cons_append, decodeFrom_first (head.symm ▸ begins), List.cons_append,
      decodeFrom_next (by simpa only [third] using above) (by simpa only [third] using below)
        (by simp), third, List.cons_append,
      decodeFrom_last (by simp only [last]; omega) (by simp only [last]; omega) rfl, last]
    simp only [value, back, List.nil_append]
  · have head : (UInt8.ofNat (code / 262144 % 8 + 240)).toNat = code / 262144 + 240 := by
      rw [toNat_byte (by omega)]
      omega
    obtain ⟨low, high, begins, above, below⟩ := first_of_four (show 0xFFFF < code by omega)
      (by omega)
    have value : ((code / 262144 * 64 + (code / 4096 % 64 + 128) % 64) * 64 +
        (code / 64 % 64 + 128) % 64) * 64 + (code % 64 + 128) % 64 = code := by omega
    rw [List.cons_append, decodeFrom_first (head.symm ▸ begins), List.cons_append,
      decodeFrom_next (by simpa only [second] using above) (by simpa only [second] using below)
        (by simp), second, List.cons_append,
      decodeFrom_next (by simp only [third]; omega) (by simp only [third]; omega) (by simp), third,
      List.cons_append,
      decodeFrom_last (by simp only [last]; omega) (by simp only [last]; omega) rfl, last]
    simp only [value, back, List.nil_append]

theorem decodeFrom_encode (chars : List Char) (bytes : List UInt8) :
    decodeFrom none (chars.flatMap String.utf8EncodeChar ++ bytes) =
      chars ++ decodeFrom none bytes := by
  induction chars with
  | nil => rfl
  | cons char chars induction =>
      rw [List.flatMap_cons, List.append_assoc, decodeFrom_encodeChar, induction, List.cons_append]

/-- A text is read back from its bytes, also in front of others. -/
theorem decode_encode_append (text : String) (bytes : List UInt8) :
    decode (encode text ++ bytes) = text ++ decode bytes := by
  rw [decode, encode, decodeFrom_encode, String.ofList_append, String.ofList_toList, decode]

@[simp] theorem decode_encode (text : String) : decode (encode text) = text := by
  have whole := decode_encode_append text []
  have nothing : decode [] = "" := rfl
  rwa [List.append_nil, nothing, String.append_empty] at whole

/-- Bytes are never read as no text. -/
theorem decodeFrom_ne_nil (pending : Option Pending) {bytes : List UInt8}
    (some : pending ≠ none ∨ bytes ≠ []) : decodeFrom pending bytes ≠ [] := by
  induction bytes generalizing pending with
  | nil =>
      cases pending with
      | none => exact absurd rfl (some.resolve_left fun given => given rfl)
      | some pending => exact List.cons_ne_nil _ _
  | cons byte bytes induction =>
      have inside (pending : Pending) : decodeFrom (.some pending) bytes ≠ [] :=
        induction _ (.inl (Option.some_ne_none pending))
      cases pending with
      | none =>
          rw [decodeFrom]
          split
          · exact List.cons_ne_nil _ _
          · exact inside _
      | some pending =>
          simp only [decodeFrom]
          split
          · split
            · exact List.cons_ne_nil _ _
            · exact inside _
          · split
            · exact List.cons_ne_nil _ _
            · exact List.cons_ne_nil _ _

theorem encode_inj {text text' : String} (same : encode text = encode text') : text = text' := by
  rw [← decode_encode text, same, decode_encode]

theorem decode?_eq_some_iff {bytes : List UInt8} {text : String} :
    decode? bytes = some text ↔ encode text = bytes := by
  constructor
  · intro read
    rw [decode?] at read
    split at read
    · cases read
      assumption
    · cases read
  · rintro rfl
    rw [decode?, decode_encode, if_pos rfl]

end Utf8
end Library
