import AqaraLanLink.Comparison.Handshake

/-!
# The frame codec

What `encodeFrame` writes is what `parseFrame` takes, in both directions and for every beginning of
a frame, and the reference's parser does the same as the port's.
-/

namespace AqaraLanLink
namespace Comparison

open Library Port

variable {data rest : List UInt8} {frame : Port.Frame}

/-- Before its last byte a frame is waited for. -/
theorem parseFrame_cut (sendable : frame.Sendable) {cut : ℕ} (short : cut < frame.bytes.length) :
    parseFrame (frame.bytes.take cut) = .ok none := by
  by_contra decided
  have whole := parseFrame_append decided (frame.bytes.drop cut)
  have taken := parseFrame_bytes sendable []
  rw [List.append_nil] at taken
  rw [List.take_append_drop, taken] at whole
  cases first : parseFrame (frame.bytes.take cut) with
  | error error =>
      rw [first] at whole
      cases whole
  | ok result =>
      cases result with
      | none => exact decided first
      | some parsed =>
          rw [first] at whole
          have pair := congrArg Prod.snd (Option.some.inj (Except.ok.inj whole))
          have empty := (List.append_eq_nil_iff.mp pair.symm).2
          rw [List.drop_eq_nil_iff] at empty
          omega

theorem readUInt16BE_lt (data : List UInt8) (offset : ℕ) : readUInt16BE data offset < 65536 := by
  have high_lt := (data.getD offset 0).toNat_lt
  have low_lt := (data.getD (offset + 1) 0).toNat_lt
  rw [readUInt16BE]
  omega

theorem readUInt32BE_halves (data : List UInt8) (offset : ℕ) :
    readUInt32BE data offset / 65536 = readUInt16BE data offset ∧
      readUInt32BE data offset % 65536 = readUInt16BE data (offset + 2) := by
  have low_lt := readUInt16BE_lt data (offset + 2)
  rw [readUInt32BE]
  constructor
  · omega
  · omega

/-- The bytes that hold a number are those that are written for it. -/
theorem two_bytes_read (data : List UInt8) {offset : ℕ} (inside : offset + 1 < data.length) :
    [.ofNat (readUInt16BE data offset / 256), .ofNat (readUInt16BE data offset % 256)] =
      (data.drop offset).take 2 := by
  rw [take_two_drop inside, eq_comm, two_bytes_eq_iff (readUInt16BE_lt data offset), readUInt16BE]

theorem drop_eq_take_append (offset count : ℕ) :
    data.drop offset = (data.drop offset).take count ++ data.drop (offset + count) := by
  rw [← List.drop_drop, List.take_append_drop]

/-- A frame that is taken off a buffer is one that can be sent, and its bytes are where it was. -/
theorem bytes_of_parseFrame (parsed : parseFrame data = .ok (some (frame, rest))) :
    frame.Sendable ∧ data = frame.bytes ++ rest := by
  have header : frameHeaderLen ≤ data.length := by
    by_contra short
    rw [parseFrame, if_pos (Nat.not_le.mp short)] at parsed
    cases parsed
  have eight : 8 ≤ data.length := header
  rw [parseFrame_of_header header] at parsed
  split at parsed
  · cases parsed
  rename_i magic
  rw [not_not] at magic
  split at parsed
  · cases parsed
  rename_i small
  split at parsed
  · cases parsed
  rename_i complete
  split at parsed
  · cases parsed
  rename_i sound
  cases parsed
  generalize count : readUInt32BE data 4 = length at *
  have whole : 8 + length + 2 ≤ data.length := Nat.not_lt.mp complete
  have ciphertext : ((data.drop frameHeaderLen).take length).length = length := by
    rw [List.length_take_of_le]
    rw [List.length_drop]
    simp only [frameHeaderLen]
    omega
  refine ⟨⟨readUInt16BE_lt data 2, ?_⟩, ?_⟩
  · rw [ciphertext]
    exact Nat.not_lt.mp small
  obtain ⟨high, low⟩ := readUInt32BE_halves data 4
  rw [count] at high low
  rw [not_not, show frameHeaderLen = 8 from rfl] at sound
  calc
    data = data.take 2 ++ ((data.drop 2).take 2 ++ ((data.drop 4).take 2 ++ ((data.drop 6).take 2 ++
        ((data.drop 8).take length ++ ((data.drop (8 + length)).take 2 ++
          data.drop (8 + length + 2)))))) := by
      rw [← drop_eq_take_append, ← drop_eq_take_append, ← drop_eq_take_append,
        ← drop_eq_take_append, ← drop_eq_take_append, List.take_append_drop]
    _ = _ := by
      rw [magic, ← two_bytes_read data (show 2 + 1 < data.length by omega),
        ← two_bytes_read data (show 4 + 1 < data.length by omega),
        ← two_bytes_read data (show 6 + 1 < data.length by omega),
        ← two_bytes_read data (show 8 + length + 1 < data.length by omega), sound]
      simp only [Frame.bytes, ciphertext, high, low, List.append_assoc]
      rfl

/-- Frames are read back as they were written, in front of anything and not before they are whole;
nothing else is read; and the two parsers agree. -/
theorem frame_codec :
    (∀ (type : ℕ) (ciphertext : List UInt8), type < 65536 → ciphertext.length ≤ maxFrameCtLen →
      ∃ bytes, encodeFrame type ciphertext = some bytes ∧
        (∀ rest, parseFrame (bytes ++ rest) = .ok (some (⟨type, ciphertext⟩, rest))) ∧
        ∀ cut < bytes.length, parseFrame (bytes.take cut) = .ok none) ∧
      (∀ (data rest : List UInt8) (frame : Port.Frame),
        parseFrame data = .ok (some (frame, rest)) →
          ∃ bytes, encodeFrame frame.type frame.ciphertext = some bytes ∧ bytes ++ rest = data) ∧
      ∀ data : List UInt8, (Reference.parseFrame data).toOption =
        (parseFrame data).toOption.map (Option.map fun taken => (wire taken.1, taken.2)) := by
  refine ⟨?_, ?_, toOption_parseFrame⟩
  · intro type ciphertext small fits
    have sendable : Port.Frame.Sendable ⟨type, ciphertext⟩ := ⟨small, fits⟩
    exact ⟨_, encodeFrame_eq sendable, parseFrame_bytes sendable,
      fun cut short => parseFrame_cut sendable short⟩
  · intro data rest frame parsed
    obtain ⟨sendable, same⟩ := bytes_of_parseFrame parsed
    exact ⟨_, encodeFrame_eq sendable, same.symm⟩

theorem frame_codec_offer : ∃ bytes, encodeFrame msgTypeEcdh [1, 2, 3] = some bytes ∧
    (∀ rest, parseFrame (bytes ++ rest) = .ok (some (⟨msgTypeEcdh, [1, 2, 3]⟩, rest))) ∧
    ∀ cut < bytes.length, parseFrame (bytes.take cut) = .ok none :=
  frame_codec.1 msgTypeEcdh [1, 2, 3] (by decide) (by decide)

end Comparison
end AqaraLanLink
