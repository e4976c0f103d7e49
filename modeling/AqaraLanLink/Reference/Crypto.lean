import Mathlib.Algebra.Group.Nat.Defs

/-!
# The reference's keys and frames

`hub/crypto.py`: the device key and the wire frames, as the Home Assistant integration computes them.
-/

namespace AqaraLanLink
namespace Reference

/-- ECDH key exchange, encrypted with the device key. -/
def msgTypeEcdh : ℕ := 0x2020
/-- Session key verification, encrypted with the device key. -/
def msgTypeVerify : ℕ := 0x201B
/-- Session data, encrypted with the session key. -/
def msgTypeSession : ℕ := 0x2021

def frameMagic : List UInt8 := [0xFF, 0xFE]
def frameHeaderLen : ℕ := 8
def frameTrailerLen : ℕ := 2
def maxFrameCtLen : ℕ := 256 * 1024

/-- One turn of the inner loop of `crc16_ccitt`. -/
def crc16Turn (crc : ℕ) : ℕ :=
  if crc &&& 0x8000 ≠ 0 then ((crc <<< 1) ^^^ 0x1021) &&& 0xFFFF else (crc <<< 1) &&& 0xFFFF

def crc16Ccitt (data : List UInt8) : ℕ :=
  data.foldl (fun crc byte => Nat.repeat crc16Turn 8 (crc ^^^ (byte.toNat <<< 8))) 0xFFFF ^^^ 0xFFFF

/-! ## The device key -/

/-- `device_id.encode("ascii")`. -/
def encodeAscii (deviceId : String) : Except String (List UInt8) :=
  deviceId.toList.mapM fun char =>
    if char.toNat < 128 then .ok (.ofNat char.toNat)
    else .error "'ascii' codec can't encode character: ordinal not in range(128)"

/-- The first passes of `derive_device_key`, up to the six mixed bytes. -/
def foldDeviceId (original : List UInt8) : List UInt8 :=
  let length := original.length
  let buf := (List.range (length - 1)).foldl (fun buf i =>
    buf.set i ((original.getD i 0 ^^^ original.getD (i + 1) 0) + buf.getD (length - 1 - i) 0)) original
  let half := length / 2
  let buf := (List.range half).foldl (fun buf i =>
    buf.set (length - 1 - i) (buf.getD i 0 ^^^ buf.getD (i + half - 1) 0)) buf
  let key6 := (List.range length).foldl (fun key6 i =>
    key6.set (i % 6) (key6.getD (i % 6) 0 ^^^ buf.getD (length - 1 - i) 0)) (List.replicate 6 0)
  (List.range 6).foldl (fun key6 i =>
    let idx := i % 6
    key6.set idx (key6.getD idx 0 + (key6.getD (5 - idx) 0 ^^^ key6.getD ((i + 3) % 6) 0))) key6

/-- `derive_device_key`. -/
def deriveDeviceKey (deviceId : String) : Except String (List UInt8) := do
  let key6 := foldDeviceId (← encodeAscii deviceId)
  let crc := crc16Ccitt key6
  let seed := key6 ++ [.ofNat (crc % 256), .ofNat (crc / 256 % 256)] ++ List.replicate 8 0
  let anchor := seed.getD 7 0
  let seed := (List.range 8).foldl (fun seed i =>
    seed.set (15 - i) (seed.getD i 0 ^^^ anchor)) seed
  -- At the last byte the first one has been changed already.
  pure ((List.range 16).foldl (fun seed i =>
    seed.set i (seed.getD i 0 ^^^ seed.getD (if i = 15 then 0 else i + 1) 0)) seed)

/-! ## Wire frames -/

/-- One decoded frame. -/
structure Frame where
  type : ℕ
  ciphertext : List UInt8
  deriving DecidableEq, Repr

/-- `int.from_bytes(data, "big")`. -/
def fromBytes (data : List UInt8) : ℕ :=
  data.foldl (fun value byte => value * 256 + byte.toNat) 0

/-- `value.to_bytes(2, "big")` and `value.to_bytes(4, "big")`; a value that does not fit throws. -/
def toBytes2 (value : ℕ) : Except String (List UInt8) :=
  if value < 2 ^ 16 then .ok [.ofNat (value / 256), .ofNat (value % 256)]
  else .error "int too big to convert"

def toBytes4 (value : ℕ) : Except String (List UInt8) :=
  if value < 2 ^ 32 then
    .ok [.ofNat (value / 2 ^ 24), .ofNat (value / 2 ^ 16 % 256), .ofNat (value / 2 ^ 8 % 256),
      .ofNat (value % 256)]
  else .error "int too big to convert"

/-- A number in lower-case hexadecimal digits, with zeros in front up to the width. -/
def formatHex (width value : ℕ) : String :=
  let digits := Nat.toDigits 16 value
  String.ofList (List.replicate (width - digits.length) '0' ++ digits)

/-- `data.hex()`. -/
def hex (data : List UInt8) : String :=
  String.join (data.map fun byte => formatHex 2 byte.toNat)

/-- `Frame.encode`. -/
def Frame.encode (frame : Frame) : Except String (List UInt8) := do
  let crc ← toBytes2 (crc16Ccitt frame.ciphertext)
  let type ← toBytes2 frame.type
  let length ← toBytes4 frame.ciphertext.length
  pure (frameMagic ++ type ++ length ++ frame.ciphertext ++ crc)

/-- `parse_frame`: one frame and the bytes behind it, or nothing when more bytes are needed. -/
def parseFrame (data : List UInt8) : Except String (Option (Frame × List UInt8)) :=
  if data.length < frameHeaderLen then .ok none
  else if data.take 2 ≠ frameMagic then
    .error s!"Bad magic: expected FF FE, got {hex (data.take 2)}"
  else
    let msgType := fromBytes ((data.drop 2).take 2)
    let ctLen := fromBytes ((data.drop 4).take 4)
    if maxFrameCtLen < ctLen then
      .error s!"Frame ciphertext length {ctLen} too large (max {maxFrameCtLen})"
    else
      let total := frameHeaderLen + ctLen + frameTrailerLen
      if data.length < total then .ok none
      else do
        let ct := (data.drop frameHeaderLen).take ctLen
        let trailer := (data.drop (frameHeaderLen + ctLen)).take frameTrailerLen
        let expected ← toBytes2 (crc16Ccitt ct)
        if trailer ≠ expected then throw s!"Bad CRC: expected {hex expected}, got {hex trailer}"
        pure (some (⟨msgType, ct⟩, data.drop total))

end Reference
end AqaraLanLink
