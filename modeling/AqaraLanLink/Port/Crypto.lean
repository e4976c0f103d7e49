import Mathlib.Data.Nat.Notation
import Mathlib.Tactic.NormNum

/-!
# The port's wire frames

The framing half of `src/protocol/crypto.js`: a frame is `FF FE`, a two-byte type, a four-byte
length, the ciphertext and its CRC-16, all big-endian.
-/

namespace AqaraLanLink
namespace Port

/-- ECDH key exchange, encrypted with the device key. -/
def msgTypeEcdh : ℕ := 0x2020
/-- Session key verification, encrypted with the device key. -/
def msgTypeVerify : ℕ := 0x201B
/-- Session data, encrypted with the session key. -/
def msgTypeSession : ℕ := 0x2021

def frameHeaderLen : ℕ := 8
def frameTrailerLen : ℕ := 2
def maxFrameCtLen : ℕ := 256 * 1024

/-- One decoded frame. -/
structure Frame where
  /-- The frame type, two bytes wide. -/
  type : ℕ
  /-- The encrypted payload. -/
  ciphertext : List UInt8
  deriving DecidableEq, Repr

/-- The eight turns of the inner loop of `crc16Ccitt` that are left. -/
def crc16Bits : ℕ → ℕ → ℕ
  | 0, crc => crc
  | bits + 1, crc =>
      crc16Bits bits
        (if crc &&& 0x8000 ≠ 0 then ((crc <<< 1) ^^^ 0x1021) &&& 0xFFFF
          else (crc <<< 1) &&& 0xFFFF)

/-- CRC-16/CCITT: polynomial 0x1021, initial value 0xFFFF, final XOR 0xFFFF. -/
def crc16Ccitt (data : List UInt8) : ℕ :=
  data.foldl (fun crc byte => crc16Bits 8 (crc ^^^ (byte.toNat <<< 8))) 0xFFFF ^^^ 0xFFFF

/-- Big-endian writes; a value that does not fit throws. -/
def writeUInt16BE (value : ℕ) : Option (List UInt8) :=
  if value < 65536 then some [.ofNat (value / 256), .ofNat (value % 256)] else none

def writeUInt32BE (value : ℕ) : Option (List UInt8) :=
  if value < 4294967296 then do
    let high ← writeUInt16BE (value / 65536)
    let low ← writeUInt16BE (value % 65536)
    pure (high ++ low)
  else none

/-- A frame as it goes on the wire. -/
def encodeFrame (type : ℕ) (ciphertext : List UInt8) : Option (List UInt8) := do
  let type ← writeUInt16BE type
  let length ← writeUInt32BE ciphertext.length
  let trailer ← writeUInt16BE (crc16Ccitt ciphertext)
  pure ([0xFF, 0xFE] ++ type ++ length ++ ciphertext ++ trailer)

/-- Big-endian reads; `parseFrame` never reads past the end. -/
def readUInt16BE (data : List UInt8) (offset : ℕ) : ℕ :=
  (data.getD offset 0).toNat * 256 + (data.getD (offset + 1) 0).toNat

def readUInt32BE (data : List UInt8) (offset : ℕ) : ℕ :=
  readUInt16BE data offset * 65536 + readUInt16BE data (offset + 2)

/-- The digits of `value.toString(16)`. -/
def hex (value : ℕ) : String := String.ofList (Nat.toDigits 16 value)

/-- `buffer.toString('hex')`, two digits to a byte. -/
def hexBytes (data : List UInt8) : String :=
  String.join (data.map fun byte => hex (byte.toNat / 16) ++ hex (byte.toNat % 16))

/-- One frame off the head of a buffer and what follows it, nothing when the frame is not all there
yet, or an error when it can never be right. -/
def parseFrame (data : List UInt8) : Except String (Option (Frame × List UInt8)) :=
  if data.length < frameHeaderLen then .ok none
  else if data.take 2 ≠ [0xFF, 0xFE] then
    .error s!"Bad magic: expected FF FE, got {hexBytes (data.take 2)}"
  else
    let type := readUInt16BE data 2
    let ctLength := readUInt32BE data 4
    if maxFrameCtLen < ctLength then
      .error s!"Frame ciphertext length {ctLength} is too large (max {maxFrameCtLen})"
    else
      let total := frameHeaderLen + ctLength + frameTrailerLen
      if data.length < total then .ok none
      else
        let ciphertext := (data.drop frameHeaderLen).take ctLength
        let trailer := readUInt16BE data (frameHeaderLen + ctLength)
        let expected := crc16Ccitt ciphertext
        if trailer ≠ expected then
          .error s!"Bad CRC: expected {hex expected}, got {hex trailer}"
        else .ok (some (⟨type, ciphertext⟩, data.drop total))

/-- The buffer shrinks with every frame taken off it. -/
theorem length_lt_of_parseFrame {data rest : List UInt8} {frame : Frame}
    (parsed : parseFrame data = .ok (some (frame, rest))) : rest.length < data.length := by
  unfold parseFrame at parsed
  simp only at parsed
  split at parsed
  · cases parsed
  · split at parsed
    · cases parsed
    · split at parsed
      · cases parsed
      · split at parsed
        · cases parsed
        · rename_i short
          split at parsed
          · cases parsed
          · simp only [Except.ok.injEq, Option.some.injEq, Prod.mk.injEq] at parsed
            rw [← parsed.2, List.length_drop]
            simp only [frameHeaderLen, frameTrailerLen] at short ⊢
            omega

/-- Cut a buffer into its complete frames.  What is left is the start of a frame, or the error of
one that can never be right. -/
def splitFrames (buffer : List UInt8) : List Frame × Except String (List UInt8) :=
  match _parsed : parseFrame buffer with
  | .error error => ([], .error error)
  | .ok none => ([], .ok buffer)
  | .ok (some (frame, rest)) =>
      let tail := splitFrames rest
      (frame :: tail.1, tail.2)
termination_by buffer.length
decreasing_by exact length_lt_of_parseFrame ‹_›

theorem splitFrames_of_error {buffer : List UInt8} {error : String}
    (parsed : parseFrame buffer = .error error) : splitFrames buffer = ([], .error error) := by
  rw [splitFrames]
  split <;> simp_all

theorem splitFrames_of_none {buffer : List UInt8} (parsed : parseFrame buffer = .ok none) :
    splitFrames buffer = ([], .ok buffer) := by
  rw [splitFrames]
  split <;> simp_all

theorem splitFrames_of_some {buffer rest : List UInt8} {frame : Frame}
    (parsed : parseFrame buffer = .ok (some (frame, rest))) :
    splitFrames buffer = (frame :: (splitFrames rest).1, (splitFrames rest).2) := by
  rw [splitFrames]
  split <;> simp_all

end Port
end AqaraLanLink
