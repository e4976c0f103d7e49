import AqaraLanLink.Library.ChainedCipher
import AqaraLanLink.Library.Endian
import AqaraLanLink.Library.JsonRoundTrip
import AqaraLanLink.Library.Utf8
import AqaraLanLink.Reference.Crypto

/-!
# The datagrams of a camera session

`ptz/cs2.py`, `ptz/framing.py` and `ptz/ioctl.py`: the cipher, the packets inside it, and the
commands inside these, which are JSON.  What a floating-point number is, and how deep calls may be
nested, are parameters of JSON.
-/

namespace AqaraLanLink
namespace Reference
namespace PtzWire

open Library JsonText Endian

/-- What is raised. -/
inductive Exception where
  | valueError (text : String)
  /-- The `ValueError` of `ioctl.parse` for a body that is no JSON text. -/
  | invalidBody
  /-- The `ValueError` of `int` and `str` for a number with too many digits. -/
  | tooManyDigits
  /-- `UnicodeEncodeError`, which is a `ValueError`. -/
  | unicodeEncodeError
  | overflowError
  | indexError
  | recursionError
  deriving DecidableEq, Repr

/-- `except ValueError` catches it. -/
def Exception.isValueError : Exception → Bool
  | valueError _ | invalidBody | tooManyDigits | unicodeEncodeError => true
  | overflowError | indexError | recursionError => false

/-- `data[start:stop]`. -/
def slice (data : List UInt8) (start stop : ℕ) : List UInt8 := (data.take stop).drop start

/-! ## The cipher -/

/-- `TABLE`. -/
def table : List UInt8 :=
  [0x7c, 0x9c, 0xe8, 0x4a, 0x13, 0xde, 0xdc, 0xb2, 0x2f, 0x21, 0x23, 0xe4, 0x30, 0x7b, 0x3d,
    0x8c, 0xbc, 0x0b, 0x27, 0x0c, 0x3c, 0xf7, 0x9a, 0xe7, 0x08, 0x71, 0x96, 0x00, 0x97, 0x85,
    0xef, 0xc1, 0x1f, 0xc4, 0xdb, 0xa1, 0xc2, 0xeb, 0xd9, 0x01, 0xfa, 0xba, 0x3b, 0x05, 0xb8,
    0x15, 0x87, 0x83, 0x28, 0x72, 0xd1, 0x8b, 0x5a, 0xd6, 0xda, 0x93, 0x58, 0xfe, 0xaa, 0xcc,
    0x6e, 0x1b, 0xf0, 0xa3, 0x88, 0xab, 0x43, 0xc0, 0x0d, 0xb5, 0x45, 0x38, 0x4f, 0x50, 0x22,
    0x66, 0x20, 0x7f, 0x07, 0x5b, 0x14, 0x98, 0x1d, 0x9b, 0xa7, 0x2a, 0xb9, 0xa8, 0xcb, 0xf1,
    0xfc, 0x49, 0x47, 0x06, 0x3e, 0xb1, 0x0e, 0x04, 0x3a, 0x94, 0x5e, 0xee, 0x54, 0x11, 0x34,
    0xdd, 0x4d, 0xf9, 0xec, 0xc7, 0xc9, 0xe3, 0x78, 0x1a, 0x6f, 0x70, 0x6b, 0xa4, 0xbd, 0xa9,
    0x5d, 0xd5, 0xf8, 0xe5, 0xbb, 0x26, 0xaf, 0x42, 0x37, 0xd8, 0xe1, 0x02, 0x0a, 0xae, 0x5f,
    0x1c, 0xc5, 0x73, 0x09, 0x4e, 0x69, 0x24, 0x90, 0x6d, 0x12, 0xb3, 0x19, 0xad, 0x74, 0x8a,
    0x29, 0x40, 0xf5, 0x2d, 0xbe, 0xa5, 0x59, 0xe0, 0xf4, 0x79, 0xd2, 0x4b, 0xce, 0x89, 0x82,
    0x48, 0x84, 0x25, 0xc6, 0x91, 0x2b, 0xa2, 0xfb, 0x8f, 0xe9, 0xa6, 0xb0, 0x9e, 0x3f, 0x65,
    0xf6, 0x03, 0x31, 0x2e, 0xac, 0x0f, 0x95, 0x2c, 0x5c, 0xed, 0x39, 0xb7, 0x33, 0x6c, 0x56,
    0x7e, 0xb4, 0xa0, 0xfd, 0x7a, 0x81, 0x53, 0x51, 0x86, 0x8d, 0x9f, 0x77, 0xff, 0x6a, 0x80,
    0xdf, 0xe2, 0xbf, 0x10, 0xd7, 0x75, 0x64, 0x57, 0x76, 0xf3, 0x55, 0xcd, 0xd0, 0xc8, 0x18,
    0xe6, 0x36, 0x41, 0x62, 0xcf, 0x99, 0xf2, 0x32, 0x4c, 0x67, 0x60, 0x61, 0x92, 0xca, 0xd3,
    0xea, 0x63, 0x7d, 0x16, 0xb6, 0x8e, 0xd4, 0x68, 0x35, 0xc3, 0x52, 0x9d, 0x46, 0x44, 0x1e,
    0x17]

/-- `key.encode("latin-1")`. -/
def encodeLatin1 (key : String) : Except Exception (List UInt8) :=
  key.toList.mapM fun char =>
    if char.toNat < 256 then .ok (.ofNat char.toNat) else .error .unicodeEncodeError

/-- What the loop of `_key4` keeps, each of 32 bits. -/
structure Sums where
  added : UInt32
  subtracted : UInt32
  weighted : UInt32
  mixed : UInt32

def Sums.add (sums : Sums) (byte : UInt8) : Sums where
  added := sums.added + byte.toUInt32
  subtracted := sums.subtracted - byte.toUInt32
  weighted := sums.weighted + (byte.toUInt32 * 0xAB) >>> 9
  mixed := sums.mixed ^^^ byte.toUInt32

/-- `_key4`. -/
def key4 (key : String) : Except Exception (List UInt8) := do
  let raw ← encodeLatin1 key
  let sums := ((raw.takeWhile (· ≠ 0)).take 20).foldl Sums.add ⟨0, 0, 0, 0⟩
  .ok [sums.added.toUInt8, sums.subtracted.toUInt8, sums.weighted.toUInt8, sums.mixed.toUInt8]

/-- `_keystream_byte`. -/
def keystreamByte (key4 : List UInt8) (prev : UInt8) : UInt8 :=
  let idx := key4.getD (prev &&& 3).toNat 0 + prev
  table.getD idx.toNat 0

/-- The loops of `encrypt` and `decrypt`. -/
def cipher (key4 : List UInt8) : ChainedCipher UInt8 where
  combine stream value := stream ^^^ value
  stream := keystreamByte key4
  undo stream value := by rw [← UInt8.xor_assoc, UInt8.xor_self, UInt8.zero_xor]

def encrypt (key : String) (data : List UInt8) : Except Exception (List UInt8) :=
  if data = [] then .ok []
  else do
    let key4 ← key4 key
    .ok ((cipher key4).encipher 0 data)

def decrypt (key : String) (data : List UInt8) : Except Exception (List UInt8) :=
  if data = [] then .ok []
  else do
    let key4 ← key4 key
    .ok ((cipher key4).decipher 0 data)

/-! ## Packets -/

def magic : UInt8 := 0xF1
def drwInnerType : UInt8 := 0xD0
def ioctlMarker : UInt8 := 0xD1

/-- `value.to_bytes(width, "big")`. -/
def toBytesBig (width value : ℕ) : Except Exception (List UInt8) :=
  if value < 256 ^ width then .ok (bigBytes width value) else .error .overflowError

/-- `value.to_bytes(width, "little")`. -/
def toBytesLittle (width value : ℕ) : Except Exception (List UInt8) :=
  if value < 256 ^ width then .ok (littleBytes width value) else .error .overflowError

/-- `build_control`. -/
def buildControl (key : String) (type : ℕ) (payload : List UInt8) :
    Except Exception (List UInt8) := do
  let length ← toBytesBig 2 payload.length
  encrypt key ([magic, .ofNat (type &&& 0xFF)] ++ length ++ payload)

/-- `parse_control` of a packet that has been decrypted: the type and the payload. -/
def readControl (dec : List UInt8) : Except Exception (ℕ × List UInt8) :=
  if dec.head? ≠ some magic then
    .error (.valueError "not a PPPP control packet (missing f1 magic)")
  else
    match dec[1]? with
    | none => .error .indexError
    | some type =>
        let length := ofBig (slice dec 2 4)
        let payload := slice dec 4 (4 + length)
        if payload.length ≠ length then
          .error (.valueError
            s!"truncated control payload: declared {length}, got {payload.length}")
        else .ok (type.toNat, payload)

/-- `parse_control`. -/
def parseControl (key : String) (wire : List UInt8) : Except Exception (ℕ × List UInt8) := do
  let dec ← decrypt key wire
  readControl dec

/-- `frame_drw`. -/
def frameDrw (key : String) (innerPpppBytes : List UInt8) : Except Exception (List UInt8) :=
  encrypt key innerPpppBytes

/-- `deframe_drw`. -/
def deframeDrw (key : String) (wire : List UInt8) : Except Exception (List UInt8) :=
  decrypt key wire

/-- `wrap_ioctl`. -/
def wrapIoctl (seq : ℕ) (ioctlBytes : List UInt8) : Except Exception (List UInt8) := do
  let seq ← toBytesBig 3 (seq &&& 0xFFFFFF)
  let body := [ioctlMarker] ++ seq ++ ioctlBytes
  let length ← toBytesBig 2 body.length
  .ok ([magic, drwInnerType] ++ length ++ body)

/-- `unwrap_ioctl`: the sequence number and the command. -/
def unwrapIoctl (inner : List UInt8) : Except Exception (ℕ × List UInt8) :=
  if inner.length < 4 ∨ inner.head? ≠ some magic then
    .error (.valueError "not a PPPP inner packet (missing f1 magic)")
  else if inner.getD 1 0 ≠ drwInnerType then
    .error (.valueError
      s!"not a DRW inner packet (type 0x{formatHex 1 (inner.getD 1 0).toNat} != 0xd0)")
  else
    let length := ofBig (slice inner 2 4)
    let body := slice inner 4 (4 + length)
    if body.length ≠ length then
      .error (.valueError s!"truncated DRW inner: declared {length}, got {body.length}")
    else if body.length < 4 then
      .error (.valueError s!"DRW inner body too short: {body.length} bytes")
    else if body.getD 0 0 ≠ ioctlMarker then
      .error (.valueError s!"missing d1 ioctl marker (got 0x{formatHex 1 (body.getD 0 0).toNat})")
    else .ok (ofBig (slice body 1 4), body.drop 4)

/-- `build_ioctl_packet`. -/
def buildIoctlPacket (key : String) (seq : ℕ) (ioctlBytes : List UInt8) :
    Except Exception (List UInt8) := do
  let inner ← wrapIoctl seq ioctlBytes
  frameDrw key inner

/-! ## Commands -/

/-- `TAG`. -/
def tag : List UInt8 := [0x6C, 0x75, 0x6D, 0x69]

/-- What is raised when JSON is not read or not written; the reader's own error is wrapped. -/
def ofFailure : Failure → Exception
  | .decode => .invalidBody
  | .digits => .tooManyDigits
  | .recursion => .recursionError

section
variable {F : Type} (floats : Floats F) (levels : ℕ)

/-- `ioctl.build`. -/
def build (iotype : ℕ) (body : Value F) (id : ℕ) : Except Exception (List UInt8) := do
  let text ← (dumps compact floats levels body).mapError ofFailure
  let bodyJson := Utf8.encode (String.ofList text)
  let iotype ← toBytesLittle 4 iotype
  let id ← toBytesLittle 4 id
  let length ← toBytesLittle 4 bodyJson.length
  .ok (tag ++ iotype ++ id ++ length ++ bodyJson)

/-- `ioctl.parse`: the type, the id and the body. -/
def parse (buf : List UInt8) : Except Exception (ℕ × ℕ × Value F) :=
  if buf.length < 16 ∨ buf.take 4 ≠ tag then .error (.valueError "not a lumi IOCTL")
  else
    let iotype := ofLittle (slice buf 4 8)
    let id := ofLittle (slice buf 8 12)
    let blen := ofLittle (slice buf 12 16)
    if buf.length < 16 + blen then
      .error (.valueError s!"truncated IOCTL body: declared {blen}, got {buf.length - 16}")
    else
      match Utf8.decode? (slice buf 16 (16 + blen)) with
      | none => .error .invalidBody
      | some raw =>
          match loads floats levels (ofString raw) with
          | .ok body => .ok (iotype, id, body)
          | .error failure => .error (ofFailure failure)

end

/-! ## There and back -/

/-- All of the key is Latin-1. -/
def IsLatin1 (key : String) : Prop := ∀ char ∈ key.toList, char.toNat < 256

theorem exists_key4 {key : String} (latin : IsLatin1 key) : ∃ bytes, key4 key = .ok bytes := by
  have encoded : Returns (encodeLatin1 key) := by
    apply returns_mapM
    intro char member
    rw [if_pos (latin char member)]
    exact returns_ok _
  obtain ⟨raw, same⟩ := encoded
  exact ⟨_, by rw [key4, same, ok_bind]⟩

theorem encrypt_eq {key : String} {bytes : List UInt8} (known : key4 key = .ok bytes)
    (data : List UInt8) : encrypt key data = .ok ((cipher bytes).encipher 0 data) := by
  rw [encrypt]
  split
  · rename_i empty
    rw [empty]
    rfl
  · rw [known, ok_bind]

theorem decrypt_eq {key : String} {bytes : List UInt8} (known : key4 key = .ok bytes)
    (data : List UInt8) : decrypt key data = .ok ((cipher bytes).decipher 0 data) := by
  rw [decrypt]
  split
  · rename_i empty
    rw [empty]
    rfl
  · rw [known, ok_bind]

theorem decrypt_encrypt {key : String} (latin : IsLatin1 key) (data : List UInt8) :
    (encrypt key data >>= decrypt key) = .ok data := by
  obtain ⟨bytes, known⟩ := exists_key4 latin
  rw [encrypt_eq known, ok_bind, decrypt_eq known, ChainedCipher.decipher_encipher]

theorem encrypt_decrypt {key : String} (latin : IsLatin1 key) (data : List UInt8) :
    (decrypt key data >>= encrypt key) = .ok data := by
  obtain ⟨bytes, known⟩ := exists_key4 latin
  rw [decrypt_eq known, ok_bind, encrypt_eq known, ChainedCipher.encipher_decipher]

/-- What stands between two parts is sliced out. -/
theorem slice_middle {start stop : ℕ} (front middle back : List UInt8)
    (begins : front.length = start) (ends : start + middle.length = stop) :
    slice (front ++ middle ++ back) start stop = middle := by
  have whole : (front ++ middle).length = stop := by rw [List.length_append, begins, ends]
  rw [slice, List.take_append_of_le_length (by omega), ← whole, List.take_length, ← begins,
    List.drop_left]

theorem readControl_packet {type : ℕ} (small : type < 256) {payload : List UInt8}
    (short : payload.length ≤ 65535) :
    readControl ([magic, .ofNat (type &&& 0xFF)] ++ bigBytes 2 payload.length ++ payload) =
      .ok (type, payload) := by
  have byte : (UInt8.ofNat (type &&& 0xFF)).toNat = type := by
    rw [show 0xFF = 2 ^ 8 - 1 from rfl, Nat.and_two_pow_sub_one_eq_mod, Nat.mod_eq_of_lt small]
    exact UInt8.toNat_ofNat_of_lt' small
  have fits : payload.length < 256 ^ 2 := by omega
  have length : slice ([magic, .ofNat (type &&& 0xFF)] ++ bigBytes 2 payload.length ++ payload) 2 4 =
      bigBytes 2 payload.length := slice_middle _ _ payload rfl (by simp)
  have body : slice ([magic, .ofNat (type &&& 0xFF)] ++ bigBytes 2 payload.length ++ payload) 4
      (4 + payload.length) = payload := by
    have header : ([magic, .ofNat (type &&& 0xFF)] ++ bigBytes 2 payload.length).length = 4 := by
      simp
    have middle := slice_middle _ payload [] header rfl
    rwa [List.append_nil] at middle
  rw [readControl, if_neg (by simp)]
  simp only [List.cons_append, List.nil_append, List.getElem?_cons_succ, List.getElem?_cons_zero,
    byte] at *
  rw [length, ofBig_bigBytes fits, body, if_neg (by simp)]

theorem parseControl_buildControl {key : String} (latin : IsLatin1 key) {type : ℕ}
    (small : type < 256) {payload : List UInt8} (short : payload.length ≤ 65535) :
    (buildControl key type payload >>= parseControl key) = .ok (type, payload) := by
  have fits : payload.length < 256 ^ 2 := by omega
  obtain ⟨bytes, known⟩ := exists_key4 latin
  rw [buildControl, toBytesBig, if_pos fits, ok_bind, encrypt_eq known, ok_bind, parseControl,
    decrypt_eq known, ChainedCipher.decipher_encipher, ok_bind, readControl_packet small short]

theorem wrapIoctl_eq {ioctl : List UInt8} (short : 4 + ioctl.length ≤ 65535) (seq : ℕ) :
    wrapIoctl seq ioctl = .ok ([magic, drwInnerType] ++ bigBytes 2 (4 + ioctl.length) ++
      ([ioctlMarker] ++ bigBytes 3 (seq % 0x1000000) ++ ioctl)) := by
  have masked : seq &&& 0xFFFFFF = seq % 0x1000000 := by
    rw [show 0xFFFFFF = 2 ^ 24 - 1 from rfl, Nat.and_two_pow_sub_one_eq_mod]
  have fits : seq % 0x1000000 < 256 ^ 3 := by omega
  have length : ([ioctlMarker] ++ bigBytes 3 (seq % 0x1000000) ++ ioctl).length =
      4 + ioctl.length := by
    simp only [List.length_append, List.length_singleton, length_bigBytes]
  have fits' : 4 + ioctl.length < 256 ^ 2 := by omega
  rw [wrapIoctl, masked, toBytesBig, if_pos fits, ok_bind]
  simp only [length]
  rw [toBytesBig, if_pos fits', ok_bind]

/-- A packet as it should be, with anything behind it, is unwrapped. -/
theorem unwrapIoctl_parts {length number ioctl : List UInt8} (two : length.length = 2)
    (three : number.length = 3) (declared : ofBig length = 4 + ioctl.length)
    (behind : List UInt8) : unwrapIoctl ([magic, drwInnerType] ++ length ++
      ([ioctlMarker] ++ number ++ ioctl) ++ behind) = .ok (ofBig number, ioctl) := by
  have whole : ([ioctlMarker] ++ number ++ ioctl).length = 4 + ioctl.length := by
    simp only [List.length_append, List.length_singleton, three]
  have first : slice ([magic, drwInnerType] ++ length ++ ([ioctlMarker] ++ number ++ ioctl) ++
      behind) 2 4 = length := by
    rw [List.append_assoc]
    exact slice_middle _ _ _ rfl (by simp [two])
  have body : slice ([magic, drwInnerType] ++ length ++ ([ioctlMarker] ++ number ++ ioctl) ++
      behind) 4 (4 + (4 + ioctl.length)) = [ioctlMarker] ++ number ++ ioctl :=
    slice_middle _ _ _ (by simp [two]) (by rw [whole])
  have second : slice ([ioctlMarker] ++ number ++ ioctl) 1 4 = number :=
    slice_middle _ _ _ rfl (by simp [three])
  have rest : ([ioctlMarker] ++ number ++ ioctl).drop 4 = ioctl :=
    List.drop_left' (by simp [three])
  have long : ¬ (([magic, drwInnerType] ++ length ++ ([ioctlMarker] ++ number ++ ioctl) ++
      behind).length < 4 ∨ ([magic, drwInnerType] ++ length ++
        ([ioctlMarker] ++ number ++ ioctl) ++ behind).head? ≠ some magic) := by
    simp [two]
  rw [unwrapIoctl, if_neg long]
  simp only [first, declared, body, whole, second, rest]
  rw [if_neg (by simp), if_neg (by simp), if_neg (by omega), if_neg (by simp)]

/-- What a packet declares is what comes behind its header. -/
theorem slice_payload (a b c d : UInt8) (rest : List UInt8) (length : ℕ) :
    slice (a :: b :: c :: d :: rest) 4 (4 + length) = rest.take length := by
  rw [slice, Nat.add_comm]
  rfl

theorem exists_four {bytes : List UInt8} (long : ¬ bytes.length < 4) :
    ∃ a b c d rest, bytes = a :: b :: c :: d :: rest := by
  rcases bytes with _ | ⟨a, _ | ⟨b, _ | ⟨c, _ | ⟨d, rest⟩⟩⟩⟩
  · exact absurd (show 0 < 4 by omega) long
  · exact absurd (show 1 < 4 by omega) long
  · exact absurd (show 2 < 4 by omega) long
  · exact absurd (show 3 < 4 by omega) long
  · exact ⟨a, b, c, d, rest, rfl⟩

/-- Only such a packet is unwrapped. -/
theorem exists_parts_of_unwrapIoctl {inner ioctl : List UInt8} {seq : ℕ}
    (unwrapped : unwrapIoctl inner = .ok (seq, ioctl)) : ∃ length number behind,
      inner = [magic, drwInnerType] ++ length ++ ([ioctlMarker] ++ number ++ ioctl) ++ behind ∧
        length.length = 2 ∧ number.length = 3 ∧ ofBig length = 4 + ioctl.length ∧
          ofBig number = seq := by
  rw [unwrapIoctl] at unwrapped
  split at unwrapped
  · cases unwrapped
  rename_i front
  rw [not_or, not_not] at front
  obtain ⟨a, b, c, d, rest, rfl⟩ := exists_four front.1
  have first : a = magic := Option.some.inj front.2
  simp only [slice_payload] at unwrapped
  split at unwrapped
  · cases unwrapped
  rename_i type
  have second : b = drwInnerType := not_not.mp type
  split at unwrapped
  · cases unwrapped
  rename_i whole
  split at unwrapped
  · cases unwrapped
  rename_i long
  split at unwrapped
  · cases unwrapped
  rename_i marker
  have declared : slice (a :: b :: c :: d :: rest) 2 4 = [c, d] := rfl
  rw [declared] at whole long marker unwrapped
  obtain ⟨m, x, y, z, ioctl', body⟩ := exists_four long
  rw [body] at whole marker unwrapped
  have third : m = ioctlMarker := not_not.mp marker
  have same : (ofBig [x, y, z], ioctl') = (seq, ioctl) := Except.ok.inj unwrapped
  obtain ⟨number, command⟩ := Prod.mk.inj same
  subst first second third number command
  refine ⟨[c, d], [x, y, z], rest.drop (ofBig [c, d]), ?_, rfl, rfl, ?_, rfl⟩
  · change _ = magic :: drwInnerType :: c :: d ::
      ((ioctlMarker :: x :: y :: z :: ioctl') ++ rest.drop (ofBig [c, d]))
    rw [← body, List.take_append_drop]
  · have length : (ioctlMarker :: x :: y :: z :: ioctl').length = ofBig [c, d] := not_not.mp whole
    rw [← length]
    exact Nat.add_comm _ 4

theorem unwrapIoctl_packet {ioctl : List UInt8} (short : 4 + ioctl.length ≤ 65535) {seq : ℕ}
    (small : seq < 0x1000000) : unwrapIoctl ([magic, drwInnerType] ++
      bigBytes 2 (4 + ioctl.length) ++ ([ioctlMarker] ++ bigBytes 3 seq ++ ioctl)) =
        .ok (seq, ioctl) := by
  have fits : 4 + ioctl.length < 256 ^ 2 := by omega
  have fits' : seq < 256 ^ 3 := small
  have unwrapped := unwrapIoctl_parts (length_bigBytes 2 _) (length_bigBytes 3 seq)
    (ofBig_bigBytes fits) []
  rwa [List.append_nil, ofBig_bigBytes fits'] at unwrapped

section
variable {F : Type} {floats : Floats F} {levels : ℕ}

/-- The bytes of a command. -/
def ioctlBytes (iotype id : ℕ) (text : List Char) : List UInt8 :=
  tag ++ littleBytes 4 iotype ++ littleBytes 4 id ++
    littleBytes 4 (Utf8.encode (String.ofList text)).length ++ Utf8.encode (String.ofList text)

theorem length_ioctlBytes (iotype id : ℕ) (text : List Char) : (ioctlBytes iotype id text).length =
    16 + (Utf8.encode (String.ofList text)).length := by
  simp only [ioctlBytes, List.length_append, length_littleBytes]
  rfl

theorem build_eq {iotype id : ℕ} (type : iotype < 0x100000000) (number : id < 0x100000000)
    {body : Value F} {text : List Char} (written : dumps compact floats levels body = .ok text)
    (short : (Utf8.encode (String.ofList text)).length < 0x100000000) :
    build floats levels iotype body id = .ok (ioctlBytes iotype id text) := by
  have type : iotype < 256 ^ 4 := type
  have number : id < 256 ^ 4 := number
  have short : (Utf8.encode (String.ofList text)).length < 256 ^ 4 := short
  have text' : (Except.ok text).mapError ofFailure = .ok text := rfl
  rw [build, written, text', ok_bind]
  simp only [toBytesLittle, if_pos type, if_pos number, if_pos short, ok_bind, ioctlBytes]

/-- What a buffer is read as that has a text where its body is. -/
theorem parse_parts {iotype id length : List UInt8} (four : iotype.length = 4)
    (four' : id.length = 4) (four'' : length.length = 4) {text : String}
    (declared : ofLittle length = (Utf8.encode text).length) (behind : List UInt8) :
    parse floats levels (tag ++ iotype ++ id ++ length ++ Utf8.encode text ++ behind) =
      ((loads floats levels (ofString text)).map fun body =>
        (ofLittle iotype, ofLittle id, body)).mapError ofFailure := by
  have header : (tag ++ iotype ++ id ++ length).length = 16 := by
    simp only [List.length_append, four, four', four'']
    rfl
  have first : slice (tag ++ iotype ++ id ++ length ++ Utf8.encode text ++ behind) 4 8 = iotype := by
    rw [List.append_assoc, List.append_assoc, List.append_assoc]
    exact slice_middle _ _ _ rfl (by rw [four])
  have second : slice (tag ++ iotype ++ id ++ length ++ Utf8.encode text ++ behind) 8 12 = id := by
    rw [List.append_assoc, List.append_assoc]
    exact slice_middle _ _ _ (by simp [tag, four]) (by rw [four'])
  have third : slice (tag ++ iotype ++ id ++ length ++ Utf8.encode text ++ behind) 12 16 =
      length := by
    rw [List.append_assoc]
    exact slice_middle _ _ _ (by simp [tag, four, four']) (by rw [four''])
  have last : slice (tag ++ iotype ++ id ++ length ++ Utf8.encode text ++ behind) 16
      (16 + (Utf8.encode text).length) = Utf8.encode text := slice_middle _ _ _ header rfl
  have decoded : Utf8.decode? (Utf8.encode text) = some text := Utf8.decode?_eq_some_iff.mpr rfl
  have long : (tag ++ iotype ++ id ++ length ++ Utf8.encode text ++ behind).length =
      16 + (Utf8.encode text).length + behind.length := by
    rw [List.length_append, List.length_append, header]
  have front : ¬ ((tag ++ iotype ++ id ++ length ++ Utf8.encode text ++ behind).length < 16 ∨
      (tag ++ iotype ++ id ++ length ++ Utf8.encode text ++ behind).take 4 ≠ tag) := by
    rw [not_or, not_not]
    exact ⟨by omega, rfl⟩
  rw [parse, if_neg front]
  simp only [first, second, third, declared, last, decoded]
  rw [if_neg (by omega)]
  cases loads floats levels (ofString text) with
  | error failure => rfl
  | ok body => rfl

theorem take_append_slice (data : List UInt8) {start stop : ℕ} (le : start ≤ stop) :
    data.take start ++ slice data start stop = data.take stop := by
  have shorter : data.take start = (data.take stop).take start := by
    rw [List.take_take, Nat.min_eq_left le]
  rw [shorter, slice, List.take_append_drop]

theorem length_slice {data : List UInt8} {start stop : ℕ} (le : stop ≤ data.length) :
    (slice data start stop).length = stop - start := by
  rw [slice, List.length_drop, List.length_take, Nat.min_eq_left le]

/-- A buffer that raises something is refused, unless JSON raises it for its body. -/
theorem parse_error {buf : List UInt8} {exception : Exception}
    (raised : parse floats levels buf = .error exception) : exception.isValueError = true ∨
      ∃ iotype id length text behind failure,
        buf = tag ++ iotype ++ id ++ length ++ Utf8.encode text ++ behind ∧ iotype.length = 4 ∧
          id.length = 4 ∧ length.length = 4 ∧ ofLittle length = (Utf8.encode text).length ∧
            loads floats levels (ofString text) = .error failure ∧ exception = ofFailure failure := by
  rw [parse] at raised
  split at raised
  · cases raised
    exact Or.inl rfl
  rename_i front
  rw [not_or, not_not] at front
  simp only [] at raised
  split at raised
  · cases raised
    exact Or.inl rfl
  rename_i long
  split at raised
  · cases raised
    exact Or.inl rfl
  rename_i text decoded
  split at raised
  · cases raised
  rename_i failure failed
  cases raised
  have encoded := Utf8.decode?_eq_some_iff.mp decoded
  refine Or.inr ⟨slice buf 4 8, slice buf 8 12, slice buf 12 16, text,
    buf.drop (16 + ofLittle (slice buf 12 16)), failure, ?_, ?_, ?_, ?_, ?_, failed, rfl⟩
  · rw [encoded, ← front.2, take_append_slice buf (by omega), take_append_slice buf (by omega),
      take_append_slice buf (by omega), take_append_slice buf (by omega), List.take_append_drop]
  · exact length_slice (by omega)
  · exact length_slice (by omega)
  · exact length_slice (by omega)
  · rw [encoded, length_slice (by omega), Nat.add_sub_cancel_left]

theorem parse_ioctlBytes {iotype id : ℕ} (type : iotype < 0x100000000)
    (number : id < 0x100000000) {body : Value F} {text : List Char}
    (read : loads floats levels (ofChars text) = .ok body)
    (short : (Utf8.encode (String.ofList text)).length < 0x100000000) :
    parse floats levels (ioctlBytes iotype id text) = .ok (iotype, id, body) := by
  have fits : iotype < 256 ^ 4 := type
  have fits' : id < 256 ^ 4 := number
  have fits'' : (Utf8.encode (String.ofList text)).length < 256 ^ 4 := short
  have characters : ofString (String.ofList text) = ofChars text := by
    rw [ofString, String.toList_ofList]
  have whole := List.append_nil (ioctlBytes iotype id text)
  rw [ioctlBytes] at whole
  rw [ioctlBytes, ← whole, parse_parts (length_littleBytes 4 iotype) (length_littleBytes 4 id)
    (length_littleBytes 4 _) (ofLittle_littleBytes fits''), characters, read,
    ofLittle_littleBytes fits, ofLittle_littleBytes fits']
  rfl

variable (floats levels)

/-- A command that is sent, and read where it comes in: its sequence number, its type, its id and its
body. -/
def echo (key : String) (seq iotype : ℕ) (body : Value F) (id : ℕ) :
    Except Exception (ℕ × ℕ × ℕ × Value F) := do
  let ioctl ← build floats levels iotype body id
  let wire ← buildIoctlPacket key seq ioctl
  let inner ← deframeDrw key wire
  let unwrapped ← unwrapIoctl inner
  let parsed ← parse floats levels unwrapped.2
  .ok (unwrapped.1, parsed)

/-- What is sent comes back, for these bodies. -/
structure RoundTrips (key : String) (bodies : Value F → Prop) : Prop where
  command : ∀ seq iotype id, iotype < 0x100000000 → id < 0x100000000 → ∀ members text,
    bodies (.object members) → dumps compact floats levels (.object members) = .ok text →
    4 + (16 + (Utf8.encode (String.ofList text)).length) ≤ 65535 →
    echo floats levels key seq iotype (.object members) id =
      .ok (seq % 0x1000000, iotype, id, .object members)
  control : ∀ type < 256, ∀ payload : List UInt8, payload.length ≤ 65535 →
    (buildControl key type payload >>= parseControl key) = .ok (type, payload)
  decrypts : ∀ data, (encrypt key data >>= decrypt key) = .ok data
  encrypts : ∀ data, (decrypt key data >>= encrypt key) = .ok data
  /-- A byte of the ciphertext only changes the text at its place and one place on. -/
  spreads : ∀ data changed byte plain plain', decrypt key data = .ok plain →
    decrypt key (data.set changed byte) = .ok plain' →
    ∀ place, place ≠ changed → place ≠ changed + 1 → plain[place]? = plain'[place]?

variable {floats levels}

theorem echo_of_written {key : String} (latin : IsLatin1 key) (seq : ℕ) {iotype id : ℕ}
    (type : iotype < 0x100000000) (number : id < 0x100000000) {body read : Value F}
    {text : List Char} (written : dumps compact floats levels body = .ok text)
    (back : loads floats levels (ofChars text) = .ok read)
    (short : 4 + (16 + (Utf8.encode (String.ofList text)).length) ≤ 65535) :
    echo floats levels key seq iotype body id = .ok (seq % 0x1000000, iotype, id, read) := by
  obtain ⟨bytes, known⟩ := exists_key4 latin
  have less : (Utf8.encode (String.ofList text)).length < 0x100000000 := by omega
  have length := length_ioctlBytes iotype id text
  have fits : 4 + (ioctlBytes iotype id text).length ≤ 65535 := by omega
  rw [echo, build_eq type number written less, ok_bind, buildIoctlPacket, wrapIoctl_eq fits,
    ok_bind, frameDrw, encrypt_eq known, ok_bind, deframeDrw, decrypt_eq known,
    ChainedCipher.decipher_encipher, ok_bind,
    unwrapIoctl_packet fits (Nat.mod_lt seq (show 0 < 0x1000000 by omega)), ok_bind,
    parse_ioctlBytes type number back less, ok_bind]

/-- Under a Latin-1 key, everything comes back that JSON gives back. -/
theorem wire_round_trips (floats : Floats F) (levels : ℕ) {key : String} (latin : IsLatin1 key) :
    RoundTrips floats levels key Sound where
  command seq _ _ type number _ _ sound written short :=
    echo_of_written latin seq type number written (loads_dumps compact sound written) short
  control _ small _ short := parseControl_buildControl latin small short
  decrypts := decrypt_encrypt latin
  encrypts := encrypt_decrypt latin
  spreads := by
    intro data changed byte plain plain' before after place apart apart'
    obtain ⟨bytes, known⟩ := exists_key4 latin
    rw [decrypt_eq known] at before after
    cases before
    cases after
    apply ChainedCipher.decipher_local _ apart apart'
    intro place apart
    rw [List.getElem?_set_ne (Ne.symm apart)]

end

theorem wire_round_trips_plain_key : RoundTrips half 1 "k" Sound :=
  wire_round_trips half 1 (by simp [IsLatin1])

/-- A body whose text has a high half right in front of a low one. -/
def splitBody : Value Unit := .object [([], .string [ofUnit 0xD83D, ofUnit 0xDE00])]

/-- The text of that body. -/
def splitText : List Char :=
  ['{', '"', '"', ':', '"', '\\', 'u', 'd', '8', '3', 'd', '\\', 'u', 'd', 'e', '0', '0', '"', '}']

/-- What it comes back as. -/
def pairBody : Value Unit := .object [([], .string [.char '😀'])]

/-- Other keys do not encrypt, and a split pair comes back as one character. -/
theorem wire_round_trips_fail :
    ¬ RoundTrips half 1 "Ā" Sound ∧ ¬ RoundTrips half 1 "k" (fun body => body = splitBody) := by
  constructor
  · intro trips
    have encrypted := trips.decrypts [0]
    have raised : encrypt "Ā" [0] = .error .unicodeEncodeError := rfl
    rw [raised] at encrypted
    cases encrypted
  · intro trips
    have latin : IsLatin1 "k" := by simp [IsLatin1]
    have sound : Sound pairBody := by
      apply Sound.object
      · simp [Unsplit]
      · intro member single
        rw [List.mem_singleton.mp single]
        exact .string (List.isChain_singleton _)
      · simp
    have split : dumps compact half 1 splitBody = .ok splitText := rfl
    have pair : escape (.char '😀') =
        ['\\', 'u', 'd', '8', '3', 'd', '\\', 'u', 'd', 'e', '0', '0'] := by decide
    have paired : dumps compact half 1 pairBody = .ok splitText := by
      simp [dumps, pairBody, write, writeMembers, writeString, pair, joinItems, compact, splitText]
    have length : (Utf8.encode (String.ofList splitText)).length = 19 := by
      rw [Utf8.encode, String.toList_ofList]
      rfl
    have short : 4 + (16 + (Utf8.encode (String.ofList splitText)).length) ≤ 65535 := by
      rw [length]
      omega
    have zero : 0 < 0x100000000 := by omega
    have sent := trips.command 0 0 0 zero zero _ splitText rfl split short
    have back := loads_dumps compact sound paired
    have came := echo_of_written latin 0 zero zero split back short
    have same := sent.symm.trans came
    cases same

end PtzWire
end Reference
end AqaraLanLink
