import AqaraLanLink.Port.Crypto

/-!
# The device key

`deriveDeviceKey` of `src/protocol/crypto.js`.  The key of the handshake frames is a function of the
hub's device id.
-/

namespace AqaraLanLink
namespace Port

/-- The UTF-16 code units of a character. -/
def codeUnits (char : Char) : List ℕ :=
  if char.toNat < 0x10000 then [char.toNat]
  else [0xD800 + (char.toNat - 0x10000) / 0x400, 0xDC00 + (char.toNat - 0x10000) % 0x400]

/-- `Buffer.from(text, 'ascii')`: the low byte of every code unit. -/
def asciiBuffer (text : String) : List UInt8 :=
  (text.toList.flatMap codeUnits).map .ofNat

/-- The fold of the device id into six bytes. -/
def deviceKey6 (original : List UInt8) : List UInt8 :=
  let length := original.length
  let at' (buf : List UInt8) (i : ℕ) := buf.getD i 0
  -- Pass 1 reads from the snapshot and, for the tail, from the buffer it writes.
  let buf := (List.range (length - 1)).foldl (fun buf i =>
    buf.set i ((at' original i ^^^ at' original (i + 1)) + at' buf (length - 1 - i))) original
  let half := length / 2
  let buf := (List.range half).foldl (fun buf i =>
    buf.set (length - 1 - i) (at' buf i ^^^ at' buf (i + half - 1))) buf
  let key6 := (List.range length).foldl (fun key6 i =>
    key6.set (i % 6) (at' key6 (i % 6) ^^^ at' buf (length - 1 - i))) (List.replicate 6 0)
  (List.range 6).foldl (fun key6 i =>
    key6.set i (at' key6 i + (at' key6 (5 - i) ^^^ at' key6 ((i + 3) % 6)))) key6

/-- The 16-byte AES key of a device id. -/
def deriveDeviceKey (deviceId : String) : List UInt8 :=
  let key6 := deviceKey6 (asciiBuffer deviceId)
  let crc := crc16Ccitt key6
  let seed := key6 ++ [.ofNat (crc % 256), .ofNat (crc / 256 % 256)] ++ List.replicate 8 0
  let anchor := seed.getD 7 0
  let seed := (List.range 8).foldl (fun seed i =>
    seed.set (15 - i) (seed.getD i 0 ^^^ anchor)) seed
  -- The wrap at the last byte reads the first one after it has been changed.
  (List.range 16).foldl (fun seed i =>
    seed.set i (seed.getD i 0 ^^^ seed.getD (if i = 15 then 0 else i + 1) 0)) seed

end Port
end AqaraLanLink
