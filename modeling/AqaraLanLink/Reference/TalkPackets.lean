import AqaraLanLink.Library.Endian
import AqaraLanLink.Library.Fallible
import AqaraLanLink.Library.ReflectedRegister
import AqaraLanLink.Reference.PtzWire

/-!
# Control packets of the voice channel

`device/camera/protocol.py` and the constants it takes from `device/camera/const.py`: the packets a
talk client and a camera exchange over TCP, and their checksum.
-/

namespace AqaraLanLink
namespace Reference
namespace TalkPackets

open Library Endian ReflectedRegister
open PtzWire (slice)

/-- What is raised. -/
inductive Exception where
  /-- `struct.error`. -/
  | structError
  | indexError
  deriving DecidableEq, Repr

/-- `MAGIC`. -/
def magic : List UInt8 := [0xFE, 0xEF]
def typeStartVoice : ℕ := 0
def typeStopVoice : ℕ := 1
def typeAck : ℕ := 2
def typeHeartbeat : ℕ := 3

/-! ## The checksum -/

/-- `CRC16_TABLE`. -/
def crc16Table : List ℕ :=
  [0x0000, 0x1189, 0x2312, 0x329b, 0x4624, 0x57ad, 0x6536, 0x74bf, 0x8c48, 0x9dc1, 0xaf5a, 0xbed3,
    0xca6c, 0xdbe5, 0xe97e, 0xf8f7, 0x1081, 0x0108, 0x3393, 0x221a, 0x56a5, 0x472c, 0x75b7, 0x643e,
    0x9cc9, 0x8d40, 0xbfdb, 0xae52, 0xdaed, 0xcb64, 0xf9ff, 0xe876, 0x2102, 0x308b, 0x0210, 0x1399,
    0x6726, 0x76af, 0x4434, 0x55bd, 0xad4a, 0xbcc3, 0x8e58, 0x9fd1, 0xeb6e, 0xfae7, 0xc87c, 0xd9f5,
    0x3183, 0x200a, 0x1291, 0x0318, 0x77a7, 0x662e, 0x54b5, 0x453c, 0xbdcb, 0xac42, 0x9ed9, 0x8f50,
    0xfbef, 0xea66, 0xd8fd, 0xc974, 0x4204, 0x538d, 0x6116, 0x709f, 0x0420, 0x15a9, 0x2732, 0x36bb,
    0xce4c, 0xdfc5, 0xed5e, 0xfcd7, 0x8868, 0x99e1, 0xab7a, 0xbaf3, 0x5285, 0x430c, 0x7197, 0x601e,
    0x14a1, 0x0528, 0x37b3, 0x263a, 0xdecd, 0xcf44, 0xfddf, 0xec56, 0x98e9, 0x8960, 0xbbfb, 0xaa72,
    0x6306, 0x728f, 0x4014, 0x519d, 0x2522, 0x34ab, 0x0630, 0x17b9, 0xef4e, 0xfec7, 0xcc5c, 0xddd5,
    0xa96a, 0xb8e3, 0x8a78, 0x9bf1, 0x7387, 0x620e, 0x5095, 0x411c, 0x35a3, 0x242a, 0x16b1, 0x0738,
    0xffcf, 0xee46, 0xdcdd, 0xcd54, 0xb9eb, 0xa862, 0x9af9, 0x8b70, 0x8408, 0x9581, 0xa71a, 0xb693,
    0xc22c, 0xd3a5, 0xe13e, 0xf0b7, 0x0840, 0x19c9, 0x2b52, 0x3adb, 0x4e64, 0x5fed, 0x6d76, 0x7cff,
    0x9489, 0x8500, 0xb79b, 0xa612, 0xd2ad, 0xc324, 0xf1bf, 0xe036, 0x18c1, 0x0948, 0x3bd3, 0x2a5a,
    0x5ee5, 0x4f6c, 0x7df7, 0x6c7e, 0xa50a, 0xb483, 0x8618, 0x9791, 0xe32e, 0xf2a7, 0xc03c, 0xd1b5,
    0x2942, 0x38cb, 0x0a50, 0x1bd9, 0x6f66, 0x7eef, 0x4c74, 0x5dfd, 0xb58b, 0xa402, 0x9699, 0x8710,
    0xf3af, 0xe226, 0xd0bd, 0xc134, 0x39c3, 0x284a, 0x1ad1, 0x0b58, 0x7fe7, 0x6e6e, 0x5cf5, 0x4d7c,
    0xc60c, 0xd785, 0xe51e, 0xf497, 0x8028, 0x91a1, 0xa33a, 0xb2b3, 0x4a44, 0x5bcd, 0x6956, 0x78df,
    0x0c60, 0x1de9, 0x2f72, 0x3efb, 0xd68d, 0xc704, 0xf59f, 0xe416, 0x90a9, 0x8120, 0xb3bb, 0xa232,
    0x5ac5, 0x4b4c, 0x79d7, 0x685e, 0x1ce1, 0x0d68, 0x3ff3, 0x2e7a, 0xe70e, 0xf687, 0xc41c, 0xd595,
    0xa12a, 0xb0a3, 0x8238, 0x93b1, 0x6b46, 0x7acf, 0x4854, 0x59dd, 0x2d62, 0x3ceb, 0x0e70, 0x1ff9,
    0xf78f, 0xe606, 0xd49d, 0xc514, 0xb1ab, 0xa022, 0x92b9, 0x8330, 0x7bc7, 0x6a4e, 0x58d5, 0x495c,
    0x3de3, 0x2c6a, 0x1ef1, 0x0f78]

/-- `crc16_kermit`. -/
def crc16Kermit (data : List UInt8) : ℕ :=
  let crc := data.foldl
    (fun crc b => crc16Table.getD ((crc ^^^ b.toNat) &&& 0xFF) 0 ^^^ crc >>> 8) 0xFFFF
  (crc &&& 0xFFFF) ^^^ 0xFFFF

/-- The same, bit by bit: the reflected check of polynomial `0x8408`, which begins with ones and
ends with a complement. -/
def bitwiseCrc (data : List UInt8) : ℕ := data.foldl (feed 0x8408) 0xFFFF ^^^ 0xFFFF

/-! ## Packets -/

/-- `struct.pack` of one unsigned number, most significant byte first. -/
def pack (width : ℕ) (value : ℤ) : Except Exception (List UInt8) :=
  if 0 ≤ value ∧ value < 256 ^ width then .ok (bigBytes width value.toNat)
  else .error .structError

/-- `struct.unpack` of one such number. -/
def unpack (width : ℕ) (bytes : List UInt8) : Except Exception ℕ :=
  if bytes.length = width then .ok (ofBig bytes) else .error .structError

/-- `bytes[position]`. -/
def byteAt (bytes : List UInt8) (position : ℕ) : Except Exception ℕ :=
  match bytes[position]? with
  | some byte => .ok byte.toNat
  | none => .error .indexError

/-- `TYPE_NAMES.get(pkt_type, "?")`. -/
def typeName (packetType : ℕ) : String :=
  if packetType = typeStartVoice then "START_VOICE"
  else if packetType = typeStopVoice then "STOP_VOICE"
  else if packetType = typeAck then "ACK"
  else if packetType = typeHeartbeat then "HEARTBEAT"
  else "?"

/-- The dict of `parse_packet`. -/
structure Packet where
  type : ℕ
  typeName : String
  value : ℕ
  deriving DecidableEq, Repr

/-- `payload_bytes` of `build_packet`; `& 0xFF` of an integer is its remainder by 256. -/
def payloadBytes (packetType payloadValue : ℤ) : Except Exception (List UInt8) :=
  if packetType = typeAck then pack 1 (payloadValue % 256) else pack 8 payloadValue

/-- `build_packet`. -/
def buildPacket (packetType payloadValue : ℤ) : Except Exception (List UInt8) := do
  let payloadBytes ← payloadBytes packetType payloadValue
  let header := magic ++ (← pack 1 packetType) ++ (← pack 2 payloadBytes.length)
  let crc := crc16Kermit (header.drop 2 ++ payloadBytes)
  .ok (header ++ payloadBytes ++ (← pack 2 crc))

/-- `value` of `parse_packet`. -/
def valueOf (packetType : ℕ) (payloadBytes : List UInt8) : Except Exception ℕ :=
  if packetType = typeAck then byteAt payloadBytes 0 else .ok (ofBig payloadBytes)

/-- `parse_packet`. -/
def parsePacket (data : List UInt8) : Except Exception (Option Packet) :=
  if data.length < 8 ∨ slice data 0 2 ≠ magic then .ok none
  else do
    let packetType ← byteAt data 2
    if 3 < packetType then .ok none
    else do
      let payloadLen ← unpack 2 (slice data 3 5)
      if data.length < 5 + payloadLen + 2 then .ok none
      else do
        let expectedCrc ← unpack 2 (slice data (5 + payloadLen) (7 + payloadLen))
        if crc16Kermit (slice data 2 (5 + payloadLen)) ≠ expectedCrc then .ok none
        else do
          let value ← valueOf packetType (slice data 5 (5 + payloadLen))
          .ok (some ⟨packetType, typeName packetType, value⟩)

/-- The table holds the shifted octets. -/
theorem crc16Table_eq : crc16Table = (List.range 256).map (shift 0x8408)^[8] := by
  decide +kernel

theorem crc16Table_getD (octet : ℕ) (low : octet < 256) :
    crc16Table.getD octet 0 = (shift 0x8408)^[8] octet := by
  rw [crc16Table_eq, List.getD_eq_getElem _ _ (by simpa using low), List.getElem_map,
    List.getElem_range]

theorem crc16Kermit_lt (data : List UInt8) : crc16Kermit data < 256 ^ 2 :=
  show _ < 2 ^ 16 from Nat.xor_lt_two_pow (Nat.and_lt_two_pow _ (by omega)) (by omega)

/-- The table computes the bitwise check. -/
theorem crc16Kermit_eq (data : List UInt8) : crc16Kermit data = bitwiseCrc data := by
  have registers (crc : ℕ) (fits : crc < 2 ^ 16) :
      data.foldl (feed 0x8408) crc < 2 ^ 16 ∧
        data.foldl (fun crc b =>
          crc16Table.getD ((crc ^^^ b.toNat) &&& 0xFF) 0 ^^^ crc >>> 8) crc =
          data.foldl (feed 0x8408) crc := by
    induction data generalizing crc with
    | nil => exact ⟨fits, rfl⟩
    | cons byte data induction =>
        have one : crc16Table.getD ((crc ^^^ byte.toNat) &&& 0xFF) 0 ^^^ crc >>> 8 =
            feed 0x8408 crc byte := by
          have table := feed_eq_table (fun octet low => crc16Table_getD octet low) crc byte
          rw [table, show 0xFF = 2 ^ 8 - 1 from rfl, Nat.and_two_pow_sub_one_eq_mod]
        rw [List.foldl_cons, List.foldl_cons, one]
        have next : feed 0x8408 crc byte < 2 ^ 16 := feed_lt (by omega) (by omega) fits byte
        exact induction _ next
  obtain ⟨fits, same⟩ := registers 0xFFFF (by omega)
  have masked : data.foldl (feed 0x8408) 0xFFFF &&& 0xFFFF = data.foldl (feed 0x8408) 0xFFFF :=
    Nat.and_two_pow_sub_one_of_lt_two_pow fits
  rw [crc16Kermit, same, masked, bitwiseCrc]

/-! ## What is accepted -/

/-- What the checksum covers. -/
def body (packetType : ℕ) (payload : List UInt8) : List UInt8 :=
  .ofNat packetType :: bigBytes 2 payload.length ++ payload

/-- A packet on the wire. -/
def layout (packetType : ℕ) (payload : List UInt8) : List UInt8 :=
  magic ++ body packetType payload ++ bigBytes 2 (crc16Kermit (body packetType payload))

/-- The announced length of the payload. -/
def payloadLength (data : List UInt8) : ℕ := ofBig (slice data 3 5)

/-- The magic, the length and the checksum match. -/
structure Matches (data : List UInt8) : Prop where
  magic : slice data 0 2 = [0xFE, 0xEF]
  length : 7 + payloadLength data ≤ data.length
  crc : bitwiseCrc (slice data 2 (5 + payloadLength data)) =
    ofBig (slice data (5 + payloadLength data) (7 + payloadLength data))

/-- What the parser checks. -/
structure Sound (data : List UInt8) : Prop extends Matches data where
  whole : 8 ≤ data.length
  known : (data.getD 2 0).toNat ≤ 3

theorem slice_append_slice (data : List UInt8) {start middle stop : ℕ} (first : start ≤ middle)
    (second : middle ≤ stop) :
    slice data start middle ++ slice data middle stop = slice data start stop := by
  simp only [slice, List.drop_take]
  rw [show middle = start + (middle - start) by omega, ← List.drop_drop,
    show stop - start = middle - start + (stop - middle) by omega, List.take_add]
  congr 2 <;> omega

theorem length_slice {data : List UInt8} {start stop : ℕ} (inside : stop ≤ data.length) :
    (slice data start stop).length = stop - start := by
  rw [slice, List.length_drop, List.length_take, Nat.min_eq_left inside]

theorem slice_append (before middle after : List UInt8) :
    slice (before ++ middle ++ after) before.length (before.length + middle.length) = middle := by
  rw [slice, ← List.length_append, List.take_left, List.drop_left]

theorem byteAt_of_lt {data : List UInt8} {position : ℕ} (inside : position < data.length) :
    byteAt data position = .ok (data.getD position 0).toNat := by
  rw [byteAt, List.getElem?_eq_getElem inside, List.getD_eq_getElem _ _ inside]

/-- What passes the checks is read, but for its value. -/
theorem parsePacket_of_sound {data : List UInt8} (sound : Sound data) :
    parsePacket data =
      (valueOf (data.getD 2 0).toNat (slice data 5 (5 + payloadLength data)) >>= fun value =>
        .ok (some ⟨(data.getD 2 0).toNat, typeName (data.getD 2 0).toNat, value⟩)) := by
  obtain ⟨⟨begins, inside, checked⟩, whole, known⟩ := sound
  have length : (slice data 3 5).length = 2 := length_slice (by omega)
  have trailer : (slice data (5 + payloadLength data) (7 + payloadLength data)).length = 2 := by
    rw [length_slice (by omega)]
    omega
  rw [parsePacket, if_neg (by rw [begins, magic, not_or, not_not]; exact ⟨by omega, rfl⟩),
    byteAt_of_lt (by omega), ok_bind, if_neg (by omega), unpack, if_pos length, ok_bind,
    ← payloadLength, if_neg (by omega), unpack, if_pos trailer, ok_bind,
    if_neg (by rw [crc16Kermit_eq, checked, not_not])]

/-- What does not pass the checks is no packet. -/
theorem parsePacket_of_not_sound {data : List UInt8} (unsound : ¬ Sound data) :
    parsePacket data = .ok none := by
  rw [parsePacket]
  split
  · rfl
  rename_i opens
  rw [not_or, not_lt, not_not] at opens
  obtain ⟨whole, begins⟩ := opens
  rw [byteAt_of_lt (by omega), ok_bind]
  split
  · rfl
  rename_i known
  have length : (slice data 3 5).length = 2 := length_slice (by omega)
  rw [unpack, if_pos length, ok_bind, ← payloadLength]
  split
  · rfl
  rename_i inside
  have trailer : (slice data (5 + payloadLength data) (7 + payloadLength data)).length = 2 := by
    rw [length_slice (by omega)]
    omega
  rw [unpack, if_pos trailer, ok_bind]
  split
  · rfl
  rename_i checked
  rw [not_not, crc16Kermit_eq] at checked
  exact absurd ⟨⟨begins, by omega, checked⟩, whole, by omega⟩ unsound

theorem length_layout (packetType : ℕ) (payload : List UInt8) :
    (layout packetType payload).length = 7 + payload.length := by
  simp only [layout, body, magic, List.length_append, List.length_cons, List.length_nil,
    length_bigBytes]
  omega

section

variable (packetType : ℕ) (payload rest : List UInt8)

theorem payloadLength_layout (short : payload.length < 256 ^ 2) :
    payloadLength (layout packetType payload ++ rest) = payload.length := by
  have field := slice_append (magic ++ [.ofNat packetType]) (bigBytes 2 payload.length)
    (payload ++ bigBytes 2 (crc16Kermit (body packetType payload)) ++ rest)
  rw [payloadLength, ← ofBig_bigBytes short, ← field]
  simp [layout, body, magic]

theorem slice_body :
    slice (layout packetType payload ++ rest) 2 (5 + payload.length) = body packetType payload := by
  have field := slice_append magic (body packetType payload)
    (bigBytes 2 (crc16Kermit (body packetType payload)) ++ rest)
  have stop : magic.length + (body packetType payload).length = 5 + payload.length := by
    simp only [magic, body, List.length_append, List.length_cons, List.length_nil, length_bigBytes]
    omega
  rw [stop, ← List.append_assoc] at field
  exact field

theorem slice_payload :
    slice (layout packetType payload ++ rest) 5 (5 + payload.length) = payload := by
  have field := slice_append (magic ++ .ofNat packetType :: bigBytes 2 payload.length) payload
    (bigBytes 2 (crc16Kermit (body packetType payload)) ++ rest)
  have start : (magic ++ .ofNat packetType :: bigBytes 2 payload.length).length = 5 := by
    simp [magic]
  rw [start] at field
  simpa [layout, body] using field

theorem slice_crc :
    slice (layout packetType payload ++ rest) (5 + payload.length) (7 + payload.length) =
      bigBytes 2 (crc16Kermit (body packetType payload)) := by
  have field := slice_append (magic ++ body packetType payload)
    (bigBytes 2 (crc16Kermit (body packetType payload))) rest
  have start : (magic ++ body packetType payload).length = 5 + payload.length := by
    simp only [magic, body, List.length_append, List.length_cons, List.length_nil, length_bigBytes]
    omega
  rw [start, length_bigBytes, show 5 + payload.length + 2 = 7 + payload.length by omega] at field
  exact field

variable {packetType payload rest}

/-- A packet with anything behind it passes the checks when these are eight bytes. -/
theorem sound_layout (known : packetType ≤ 3) (short : payload.length < 256 ^ 2)
    (whole : payload ≠ [] ∨ rest ≠ []) : Sound (layout packetType payload ++ rest) := by
  have eight : 0 < payload.length + rest.length := by
    rw [Nat.add_pos_iff_pos_or_pos, List.length_pos_iff, List.length_pos_iff]
    exact whole
  have octet : (UInt8.ofNat packetType).toNat = packetType :=
    UInt8.toNat_ofNat_of_lt' (show packetType < 256 by omega)
  have length := payloadLength_layout packetType payload rest short
  refine ⟨⟨rfl, ?_, ?_⟩, ?_, ?_⟩
  · rw [length, List.length_append, length_layout]
    omega
  · rw [length, slice_body, slice_crc, ofBig_bigBytes (crc16Kermit_lt _), crc16Kermit_eq]
  · rw [List.length_append, length_layout]
    omega
  · change (UInt8.ofNat packetType).toNat ≤ 3
    rwa [octet]

/-- And nothing else does. -/
theorem Sound.eq_layout {data : List UInt8} (sound : Sound data) :
    ∃ packetType payload rest, packetType ≤ 3 ∧ payload.length < 256 ^ 2 ∧
      (payload ≠ [] ∨ rest ≠ []) ∧ data = layout packetType payload ++ rest := by
  obtain ⟨⟨begins, inside, checked⟩, whole, known⟩ := sound
  have width : (slice data 3 5).length = 2 := length_slice (by omega)
  have short : payloadLength data < 256 ^ 2 := by
    have bound := ofBig_lt (slice data 3 5)
    rwa [width] at bound
  have octet : slice data 2 3 = [data.getD 2 0] := by
    rw [slice, List.drop_take, List.drop_eq_getElem_cons (by omega),
      List.getD_eq_getElem _ _ (by omega)]
    rfl
  have announced : slice data 3 5 = bigBytes 2 (payloadLength data) := by
    rw [payloadLength, ← width, bigBytes_ofBig]
  have payload : (slice data 5 (5 + payloadLength data)).length = payloadLength data := by
    rw [length_slice (by omega), Nat.add_sub_cancel_left]
  have covered : slice data 2 (5 + payloadLength data) =
      body (data.getD 2 0).toNat (slice data 5 (5 + payloadLength data)) := by
    rw [body, payload, UInt8.ofNat_toNat, ← announced, ← List.singleton_append, ← octet,
      slice_append_slice data (by omega) (by omega), slice_append_slice data (by omega) (by omega)]
  have trailer : (slice data (5 + payloadLength data) (7 + payloadLength data)).length = 2 := by
    rw [length_slice (by omega)]
    omega
  have check : slice data (5 + payloadLength data) (7 + payloadLength data) =
      bigBytes 2 (crc16Kermit (slice data 2 (5 + payloadLength data))) := by
    have written := bigBytes_ofBig (slice data (5 + payloadLength data) (7 + payloadLength data))
    rw [trailer] at written
    rw [crc16Kermit_eq, checked, written]
  refine ⟨_, _, data.drop (7 + payloadLength data), known, payload ▸ short, ?_, ?_⟩
  · rw [← List.length_pos_iff, ← List.length_pos_iff, payload, List.length_drop]
    omega
  · rw [layout, ← covered, ← check, magic, ← begins, slice_append_slice data (by omega) (by omega),
      slice_append_slice data (by omega) (by omega), slice, List.drop_zero, List.take_append_drop]

/-- The value of a packet on the wire is that of its payload. -/
theorem parsePacket_layout (known : packetType ≤ 3) (short : payload.length < 256 ^ 2)
    (whole : payload ≠ [] ∨ rest ≠ []) :
    parsePacket (layout packetType payload ++ rest) =
      (valueOf packetType payload >>= fun value =>
        .ok (some ⟨packetType, typeName packetType, value⟩)) := by
  have type : ((layout packetType payload ++ rest).getD 2 0).toNat = packetType :=
    UInt8.toNat_ofNat_of_lt' (show packetType < 256 by omega)
  rw [parsePacket_of_sound (sound_layout known short whole),
    payloadLength_layout packetType payload rest short, slice_payload, type]

end

/-! ## What is built -/

/-- The bytes of a payload. -/
def payloadWidth (packetType : ℕ) : ℕ := if packetType = typeAck then 1 else 8

theorem pack_of_lt {width value : ℕ} (fits : value < 256 ^ width) :
    pack width value = .ok (bigBytes width value) :=
  if_pos ⟨Int.natCast_nonneg value, by exact_mod_cast fits⟩

theorem payloadBytes_eq {packetType value : ℕ} (fits : value < 256 ^ payloadWidth packetType) :
    payloadBytes packetType value = .ok (bigBytes (payloadWidth packetType) value) := by
  rw [payloadBytes]
  by_cases ack : packetType = typeAck
  · rw [payloadWidth, if_pos ack] at fits
    have whole : (value : ℤ) % 256 = value := by omega
    rw [payloadWidth, if_pos ack, if_pos (by rw [ack]), whole, pack_of_lt fits]
  · rw [payloadWidth, if_neg ack] at fits
    rw [payloadWidth, if_neg ack, if_neg (by exact_mod_cast ack), pack_of_lt fits]

theorem buildPacket_eq {packetType value : ℕ} (known : packetType ≤ 3)
    (fits : value < 256 ^ payloadWidth packetType) :
    buildPacket packetType value =
      .ok (layout packetType (bigBytes (payloadWidth packetType) value)) := by
  have narrow : payloadWidth packetType < 256 ^ 2 := by
    rw [payloadWidth]
    split <;> omega
  have octet : bigBytes 1 packetType = [.ofNat packetType] := by
    change [UInt8.ofNat (packetType % 256)] = _
    rw [Nat.mod_eq_of_lt (by omega)]
  have covered :
      (magic ++ [UInt8.ofNat packetType] ++ bigBytes 2 (payloadWidth packetType)).drop 2 ++
        bigBytes (payloadWidth packetType) value =
      body packetType (bigBytes (payloadWidth packetType) value) := by
    rw [body, length_bigBytes]
    rfl
  have one : pack 1 packetType = .ok (bigBytes 1 packetType) := pack_of_lt (by omega)
  rw [buildPacket, payloadBytes_eq fits, ok_bind, one, ok_bind,
    length_bigBytes, pack_of_lt narrow, ok_bind, octet]
  simp only [covered]
  rw [pack_of_lt (crc16Kermit_lt _), ok_bind, layout, ← covered]
  rfl

/-- The value of a payload that was built. -/
theorem valueOf_bigBytes {packetType value : ℕ} (fits : value < 256 ^ payloadWidth packetType) :
    valueOf packetType (bigBytes (payloadWidth packetType) value) = .ok value := by
  by_cases ack : packetType = typeAck
  · rw [payloadWidth, if_pos ack] at fits ⊢
    rw [valueOf, if_pos ack]
    change Except.ok (UInt8.ofNat (value % 256)).toNat = _
    rw [UInt8.toNat_ofNat_of_lt' (show value % 256 < 256 by omega), Nat.mod_eq_of_lt (by omega)]
  · rw [valueOf, if_neg ack, ofBig_bigBytes fits]

/-! ## The codec -/

/-- The acknowledgement without a value. -/
def emptyAck : List UInt8 := [0xFE, 0xEF, 0x02, 0x00, 0x00, 0x73, 0x74]

/-- The packet begins with it and goes on. -/
def IsEmptyAck (data : List UInt8) : Prop :=
  data.take 7 = emptyAck ∧ 7 < data.length

theorem emptyAck_eq : emptyAck = layout typeAck [] := by decide +kernel

theorem isEmptyAck_iff {data : List UInt8} :
    IsEmptyAck data ↔ ∃ rest, rest ≠ [] ∧ data = layout typeAck [] ++ rest := by
  rw [← emptyAck_eq]
  constructor
  · intro ⟨begins, longer⟩
    refine ⟨data.drop 7, ?_, ?_⟩
    · rw [← List.length_pos_iff, List.length_drop]
      omega
    · rw [← begins, List.take_append_drop]
  · intro ⟨rest, nonempty, whole⟩
    have positive := List.length_pos_iff.mpr nonempty
    rw [whole]
    refine ⟨rfl, ?_⟩
    rw [List.length_append, emptyAck]
    change 7 < 7 + rest.length
    omega

/-- Only on the empty acknowledgement is something raised. -/
theorem returns_iff (data : List UInt8) : Returns (parsePacket data) ↔ ¬ IsEmptyAck data := by
  constructor
  · intro returns empty
    obtain ⟨rest, nonempty, whole⟩ := isEmptyAck_iff.mp empty
    rw [whole, parsePacket_layout (by decide) (by decide) (.inr nonempty)] at returns
    exact not_returns_error Exception.indexError returns
  · intro other
    by_cases sound : Sound data
    · obtain ⟨packetType, payload, rest, known, short, longer, whole⟩ := sound.eq_layout
      rw [whole, parsePacket_layout known short longer]
      refine (returns_bind_of_forall fun value => returns_ok _).mpr ?_
      rw [valueOf]
      by_cases ack : packetType = typeAck
      · have nonempty : payload ≠ [] := by
          intro empty
          rw [ack, empty] at whole
          exact other (isEmptyAck_iff.mpr ⟨rest, longer.resolve_left (· empty), whole⟩)
        rw [if_pos ack, byteAt_of_lt (List.length_pos_iff.mpr nonempty)]
        exact returns_ok _
      · rw [if_neg ack]
        exact returns_ok _
    · rw [parsePacket_of_not_sound sound]
      exact returns_ok _

/-- What is built is read back, whatever follows it. -/
theorem parsePacket_buildPacket {packetType value : ℕ} (rest : List UInt8) (known : packetType ≤ 3)
    (fits : value < 256 ^ payloadWidth packetType) :
    ∃ packet, buildPacket packetType value = .ok packet ∧
      parsePacket (packet ++ rest) = .ok (some ⟨packetType, typeName packetType, value⟩) := by
  have width : 0 < payloadWidth packetType ∧ payloadWidth packetType < 256 ^ 2 := by
    rw [payloadWidth]
    split <;> omega
  have nonempty : bigBytes (payloadWidth packetType) value ≠ [] := by
    rw [← List.length_pos_iff, length_bigBytes]
    exact width.1
  refine ⟨_, buildPacket_eq known fits, ?_⟩
  rw [parsePacket_layout known (by rw [length_bigBytes]; exact width.2) (.inl nonempty),
    valueOf_bigBytes fits, ok_bind]

/-- The codec of the control packets, seen from one string of octets. -/
theorem control_packets (data : List UInt8) :
    ((∀ (packetType value : ℕ) (rest : List UInt8),
        packetType ≤ 3 → value < 256 ^ payloadWidth packetType →
        ∃ packet, buildPacket packetType value = .ok packet ∧
          parsePacket (packet ++ rest) = .ok (some ⟨packetType, typeName packetType, value⟩)) ∧
      (¬ Matches data → parsePacket data = .ok none) ∧
      crc16Kermit data = bitwiseCrc data ∧
      Returns (parsePacket data)) ↔ ¬ IsEmptyAck data := by
  constructor
  · intro ⟨_, _, _, returns⟩
    exact (returns_iff data).mp returns
  · intro other
    refine ⟨?_, ?_, crc16Kermit_eq data, (returns_iff data).mpr other⟩
    · intro packetType value rest known fits
      exact parsePacket_buildPacket rest known fits
    · intro differs
      exact parsePacket_of_not_sound fun sound => differs sound.toMatches

/-- A heartbeat, with its time in milliseconds. -/
theorem control_packets_heartbeat :
    ∃ packet, buildPacket (3 : ℕ) (1700000000000 : ℕ) = .ok packet ∧
      parsePacket (packet ++ [0]) = .ok (some ⟨3, typeName 3, 1700000000000⟩) := by
  have other : ¬ IsEmptyAck [] := fun ⟨_, longer⟩ => Nat.not_lt_zero _ longer
  exact ((control_packets []).mpr other).1 3 1700000000000 [0] (by omega) (by decide)

/-- The empty acknowledgement with one byte behind it. -/
theorem empty_ack_raises :
    ¬ ∀ data, Returns (parsePacket data) := by
  intro total
  have raised :
      parsePacket [0xFE, 0xEF, 0x02, 0x00, 0x00, 0x73, 0x74, 0x00] = .error .indexError := by
    decide +kernel
  have returned := total [0xFE, 0xEF, 0x02, 0x00, 0x00, 0x73, 0x74, 0x00]
  rw [raised] at returned
  exact not_returns_error Exception.indexError returned

end TalkPackets
end Reference
end AqaraLanLink
