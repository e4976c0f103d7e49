import AqaraLanLink.Port.Handshake
import AqaraLanLink.Reference.Handshake

/-!
# The two handshakes

The port's handshake and the reference's with the same hub: the same session key, or none.
-/

namespace AqaraLanLink
namespace Comparison

open Library

/-! ## Frames -/

/-- A frame as the reference decodes it. -/
def wire (frame : Port.Frame) : Reference.Frame := ⟨frame.type, frame.ciphertext⟩

theorem crc16Ccitt_eq : Reference.crc16Ccitt = Port.crc16Ccitt := rfl

theorem toBytes2_crc16Ccitt (data : List UInt8) :
    Reference.toBytes2 (Port.crc16Ccitt data) =
      .ok [.ofNat (Port.crc16Ccitt data / 256), .ofNat (Port.crc16Ccitt data % 256)] :=
  if_pos (Port.crc16Ccitt_lt data)

theorem take_two_drop {data : List UInt8} {offset : ℕ} (inside : offset + 1 < data.length) :
    (data.drop offset).take 2 = [data.getD offset 0, data.getD (offset + 1) 0] := by
  rw [List.drop_eq_getElem_cons (by omega), List.drop_eq_getElem_cons inside,
    List.getD_eq_getElem _ _ (by omega), List.getD_eq_getElem _ _ inside]
  rfl

theorem fromBytes_two {data : List UInt8} {offset : ℕ} (inside : offset + 1 < data.length) :
    Reference.fromBytes ((data.drop offset).take 2) = Port.readUInt16BE data offset := by
  rw [take_two_drop inside]
  simp [Reference.fromBytes, Port.readUInt16BE]

theorem fromBytes_four {data : List UInt8} {offset : ℕ} (inside : offset + 3 < data.length) :
    Reference.fromBytes ((data.drop offset).take 4) = Port.readUInt32BE data offset := by
  have parts : (data.drop offset).take 4 =
      (data.drop offset).take 2 ++ (data.drop (offset + 2)).take 2 := by
    rw [← List.drop_drop, ← List.take_add]
  rw [parts, take_two_drop (by omega), take_two_drop (by omega)]
  simp [Reference.fromBytes, Port.readUInt32BE, Port.readUInt16BE]
  omega

/-- Two bytes are a number's when they read as it. -/
theorem two_bytes_eq_iff {value : ℕ} (small : value < 65536) (high low : UInt8) :
    [high, low] = [.ofNat (value / 256), .ofNat (value % 256)] ↔
      high.toNat * 256 + low.toNat = value := by
  have high_lt : high.toNat < 256 := high.toNat_lt
  have low_lt : low.toNat < 256 := low.toNat_lt
  rw [List.cons.injEq, List.cons.injEq, ← UInt8.toNat_inj, ← UInt8.toNat_inj, UInt8.toNat_ofNat',
    UInt8.toNat_ofNat']
  constructor
  · rintro ⟨first, second, -⟩
    omega
  · intro same
    exact ⟨by omega, by omega, rfl⟩

/-- The two parsers take the same frame off a buffer, wait for more, or refuse it. -/
theorem toOption_parseFrame (data : List UInt8) :
    (Reference.parseFrame data).toOption =
      (Port.parseFrame data).toOption.map (Option.map fun taken => (wire taken.1, taken.2)) := by
  by_cases short : data.length < 8
  · have waits : Port.parseFrame data = .ok none := if_pos short
    have waits' : Reference.parseFrame data = .ok none := if_pos short
    rw [waits, waits']
    rfl
  · have type := fromBytes_two (show 2 + 1 < data.length by omega)
    have length := fromBytes_four (show 4 + 3 < data.length by omega)
    rw [Port.parseFrame_of_header (Nat.not_lt.mp short), Reference.parseFrame]
    unfold Reference.frameHeaderLen Reference.frameTrailerLen Reference.frameMagic
      Reference.maxFrameCtLen Port.frameHeaderLen Port.frameTrailerLen Port.maxFrameCtLen
    simp only [if_neg short, type, length, crc16Ccitt_eq, toBytes2_crc16Ccitt, ok_bind]
    by_cases magic : data.take 2 ≠ [0xFF, 0xFE]
    · simp only [if_pos magic]
      rfl
    · by_cases large : 256 * 1024 < Port.readUInt32BE data 4
      · simp only [if_neg magic, if_pos large]
        rfl
      · by_cases partly : data.length < 8 + Port.readUInt32BE data 4 + 2
        · simp only [if_neg magic, if_neg large, if_pos partly]
          rfl
        · have same := two_bytes_eq_iff (Port.crc16Ccitt_lt
            ((data.drop 8).take (Port.readUInt32BE data 4)))
            (data.getD (8 + Port.readUInt32BE data 4) 0)
            (data.getD (8 + Port.readUInt32BE data 4 + 1) 0)
          simp only [if_neg magic, if_neg large, if_neg partly,
            take_two_drop (show 8 + Port.readUInt32BE data 4 + 1 < data.length by omega)]
          by_cases sound : Port.readUInt16BE data (8 + Port.readUInt32BE data 4) =
              Port.crc16Ccitt ((data.drop 8).take (Port.readUInt32BE data 4))
          · rw [if_neg (not_not.mpr (same.mpr sound)), if_neg (not_not.mpr sound)]
            rfl
          · rw [if_pos fun matched => sound (same.mp matched), if_pos sound]
            rfl

/-- The bytes that the port takes for a frame are that frame to the reference. -/
theorem parseFrame_of_some {data rest : List UInt8} {frame : Port.Frame}
    (parsed : Port.parseFrame data = .ok (some (frame, rest))) :
    Reference.parseFrame data = .ok (some (wire frame, rest)) := by
  have same := toOption_parseFrame data
  rw [parsed] at same
  cases theirs : Reference.parseFrame data with
  | error error =>
      rw [theirs] at same
      cases same
  | ok result =>
      rw [theirs] at same
      cases same
      rfl

theorem parseFrame_of_none {data : List UInt8} (parsed : Port.parseFrame data = .ok none) :
    Reference.parseFrame data = .ok none := by
  have same := toOption_parseFrame data
  rw [parsed] at same
  cases theirs : Reference.parseFrame data with
  | error error =>
      rw [theirs] at same
      cases same
  | ok result =>
      rw [theirs] at same
      cases same
      rfl

theorem parseFrame_of_error {data : List UInt8} {error : String}
    (parsed : Port.parseFrame data = .error error) :
    ∃ error', Reference.parseFrame data = .error error' := by
  have same := toOption_parseFrame data
  rw [parsed] at same
  cases theirs : Reference.parseFrame data with
  | error error' => exact ⟨error', rfl⟩
  | ok result =>
      rw [theirs] at same
      cases same

/-! ## Device keys -/

/-- A device id as the hubs have them. -/
def Ascii (deviceId : String) : Prop := ∀ char ∈ deviceId.toList, char.toNat < 128

theorem encodeAscii_of_ascii {deviceId : String} (ascii : Ascii deviceId) :
    Reference.encodeAscii deviceId = .ok (Port.asciiBuffer deviceId) := by
  rw [Reference.encodeAscii, Port.asciiBuffer]
  rw [Ascii] at ascii
  generalize deviceId.toList = chars at ascii
  induction chars with
  | nil => rfl
  | cons char chars induction =>
      obtain ⟨first, others⟩ := List.forall_mem_cons.mp ascii
      have single : Port.codeUnits char = [char.toNat] := if_pos (by omega)
      rw [List.mapM_cons, if_pos first, induction others, List.flatMap_cons, single]
      rfl

theorem ascii_of_encodeAscii {deviceId : String} {data : List UInt8}
    (encoded : Reference.encodeAscii deviceId = .ok data) : Ascii deviceId := by
  rw [Reference.encodeAscii] at encoded
  rw [Ascii]
  generalize deviceId.toList = chars at encoded ⊢
  induction chars generalizing data with
  | nil => exact fun _ member => absurd member List.not_mem_nil
  | cons char chars induction =>
      rw [List.mapM_cons] at encoded
      obtain ⟨_, first, rest⟩ := bind_eq_ok_iff.mp encoded
      obtain ⟨_, others, -⟩ := bind_eq_ok_iff.mp rest
      refine List.forall_mem_cons.mpr ⟨?_, induction others⟩
      by_contra large
      rw [if_neg large] at first
      cases first

/-- The two keys of a device id are the same, and only the reference asks for ASCII. -/
theorem deriveDeviceKey_eq_ok_iff {deviceId : String} {deviceKey : List UInt8} :
    Reference.deriveDeviceKey deviceId = .ok deviceKey ↔
      Ascii deviceId ∧ Port.deriveDeviceKey deviceId = deviceKey := by
  have same (ascii : Ascii deviceId) :
      Reference.deriveDeviceKey deviceId = .ok (Port.deriveDeviceKey deviceId) := by
    rw [Reference.deriveDeviceKey, encodeAscii_of_ascii ascii]
    rfl
  constructor
  · intro derived
    obtain ⟨_, encoded, -⟩ := bind_eq_ok_iff.mp derived
    have ascii := ascii_of_encodeAscii encoded
    exact ⟨ascii, Except.ok.inj ((same ascii).symm.trans derived)⟩
  · rintro ⟨ascii, rfl⟩
    exact same ascii

/-! ## What the reference reads -/

section

open Reference.EncryptedTunnel

section

variable (ciphers : Ciphers) (deviceKey : List UInt8) (sessionKey : Option (List UInt8))
variable {buffer : List UInt8} {reads : List (List UInt8)} {ending : Except String (List UInt8)}

theorem recvFrame_of_some {rest : List UInt8} {frame : Port.Frame}
    (takes : Port.parseFrame buffer = .ok (some (frame, rest))) :
    recvFrame ciphers deviceKey sessionKey buffer reads = (do
      let key ← selectDecryptKey deviceKey sessionKey frame.type
      let plaintext ← ciphers.aesCbcDecrypt key frame.ciphertext
      pure (some ⟨frame.type, plaintext, rest, reads⟩)) := by
  rw [recvFrame.eq_def, parseFrame_of_some takes]
  rfl

theorem recvFrame_of_none {chunk : List UInt8} (waits : Port.parseFrame buffer = .ok none)
    (filled : [] ≠ chunk) :
    recvFrame ciphers deviceKey sessionKey buffer (chunk :: reads) =
      recvFrame ciphers deviceKey sessionKey (buffer ++ chunk) reads := by
  rw [recvFrame, parseFrame_of_none waits]
  exact if_neg (Ne.symm filled)

/-- `_recv_frame` takes the first frame of a stream, however the reads cut it. -/
theorem recvFrame_of_cons {frame : Port.Frame} {frames : List Port.Frame}
    (splits : Splits Port.parseFrame (buffer ++ reads.flatten) (frame :: frames) ending)
    (nonempty : [] ∉ reads) :
    ∃ (rest : List UInt8) (later : List (List UInt8)),
      Splits Port.parseFrame (rest ++ later.flatten) frames ending ∧ [] ∉ later ∧
        recvFrame ciphers deviceKey sessionKey buffer reads = (do
          let key ← selectDecryptKey deviceKey sessionKey frame.type
          let plaintext ← ciphers.aesCbcDecrypt key frame.ciphertext
          pure (some ⟨frame.type, plaintext, rest, later⟩)) := by
  induction reads generalizing buffer with
  | nil =>
      rw [List.flatten_nil, List.append_nil] at splits
      cases splits with
      | @take _ rest _ _ _ takes goes =>
          exact ⟨rest, [], by rwa [List.flatten_nil, List.append_nil], nonempty,
            recvFrame_of_some _ _ _ takes⟩
  | cons chunk reads induction =>
      rcases splits.cut Port.incremental_parseFrame with
        ⟨_, starts, rfl⟩ | ⟨earlier, later, left, parts, starts, goes⟩
      · cases starts with
        | @take _ rest _ _ _ takes further =>
            exact ⟨rest, chunk :: reads, further.error_append Port.incremental_parseFrame _,
              nonempty, recvFrame_of_some _ _ _ takes⟩
      · cases starts with
        | wait waits =>
            obtain ⟨filled, others⟩ := not_or.mp (mt List.mem_cons.mpr nonempty)
            rw [List.flatten_cons, ← List.append_assoc] at splits
            rw [recvFrame_of_none _ _ _ waits filled]
            exact induction splits others
        | @take _ rest _ _ _ takes further =>
            cases parts
            exact ⟨rest, chunk :: reads, further.append Port.incremental_parseFrame goes, nonempty,
              recvFrame_of_some _ _ _ takes⟩

/-- `_recv_frame` returns nothing when there is no frame in the stream. -/
theorem recvFrame_of_nil
    (splits : Splits Port.parseFrame (buffer ++ reads.flatten) [] ending) (nonempty : [] ∉ reads)
    (received : Received) :
    recvFrame ciphers deviceKey sessionKey buffer reads ≠ .ok (some received) := by
  induction reads generalizing buffer with
  | nil =>
      rw [List.flatten_nil, List.append_nil] at splits
      cases splits with
      | wait waits =>
          rw [recvFrame, parseFrame_of_none waits]
          nofun
      | stop stops =>
          obtain ⟨error, refused⟩ := parseFrame_of_error stops
          rw [recvFrame, refused]
          nofun
  | cons chunk reads induction =>
      rcases splits.cut Port.incremental_parseFrame with
        ⟨_, starts, rfl⟩ | ⟨earlier, later, left, parts, starts, goes⟩
      · cases starts with
        | stop stops =>
            obtain ⟨error, refused⟩ := parseFrame_of_error stops
            rw [recvFrame, refused]
            nofun
      · obtain ⟨rfl, -⟩ := List.append_eq_nil_iff.mp parts.symm
        cases starts with
        | wait waits =>
            obtain ⟨filled, others⟩ := not_or.mp (mt List.mem_cons.mpr nonempty)
            rw [List.flatten_cons, ← List.append_assoc] at splits
            rw [recvFrame_of_none _ _ _ waits filled]
            exact induction splits others

end

/-! ## What the two make of a frame -/

variable {ciphers : Ciphers} {secrets : Secrets} {deviceKey : List UInt8}
variable {reads : List (List UInt8)}

theorem parseEcdhPayload_eq_ok_iff {plaintext pubkey : List UInt8} :
    Port.Handshake.parseEcdhPayload plaintext = .ok pubkey ↔
      ∃ nonce, parseEcdhPayload plaintext = .ok (pubkey, nonce) := by
  unfold parseEcdhPayload Port.Handshake.parseEcdhPayload pubkeyBytes Port.Handshake.pubkeyBytes
  by_cases short : plaintext.length < 2 + 48
  · simp only [if_pos short, reduceCtorEq, exists_false]
  · have two : plaintext.take 2 = [plaintext.getD 0 0, plaintext.getD 1 0] :=
      take_two_drop (show 0 + 1 < plaintext.length by omega)
    by_cases header : plaintext.take 2 = [0x00, 0x30]
    · have header' : ¬ (plaintext.getD 0 0 ≠ 0x00 ∨ plaintext.getD 1 0 ≠ 0x30) := by
        rw [two] at header
        injection header with first rest
        injection rest with second _
        exact not_or.mpr ⟨not_not.mpr first, not_not.mpr second⟩
      simp only [if_neg short, if_neg header', if_neg (not_not.mpr header)]
      constructor
      · intro parsed
        cases parsed
        split
        · exact ⟨_, rfl⟩
        · split
          · exact ⟨_, rfl⟩
          · exact ⟨_, rfl⟩
      · rintro ⟨nonce, parsed⟩
        split at parsed
        · cases parsed
          rfl
        · split at parsed
          · cases parsed
            rfl
          · cases parsed
            rfl
    · have header' : plaintext.getD 0 0 ≠ 0x00 ∨ plaintext.getD 1 0 ≠ 0x30 := by
        by_contra other
        obtain ⟨first, second⟩ := not_or.mp other
        exact header (by rw [two, not_not.mp first, not_not.mp second])
      simp only [if_neg short, if_pos header', if_pos header, reduceCtorEq, exists_false]

/-- A frame of a handshake can be written unless its length does not fit. -/
theorem returns_encode_iff {type : ℕ} (fits : type < 65536) (ciphertext : List UInt8) :
    Returns (Reference.Frame.encode ⟨type, ciphertext⟩) ↔ ciphertext.length < 2 ^ 32 := by
  have type' : Reference.toBytes2 type = .ok [.ofNat (type / 256), .ofNat (type % 256)] :=
    if_pos fits
  simp only [Reference.Frame.encode, crc16Ccitt_eq, toBytes2_crc16Ccitt, type', ok_bind]
  rw [returns_bind_of_forall fun _ => returns_pure _, Reference.toBytes4]
  split
  · rename_i small
    exact ⟨fun _ => small, fun _ => returns_ok _⟩
  · rename_i large
    exact ⟨fun returned => absurd returned (not_returns_error _), fun small => absurd small large⟩

theorem exists_encodeFrame_iff {type : ℕ} (fits : type < 65536) (ciphertext : List UInt8) :
    (∃ bytes, Port.encodeFrame type ciphertext = some bytes) ↔ ciphertext.length < 2 ^ 32 := by
  have type' : Port.writeUInt16BE type = some [.ofNat (type / 256), .ofNat (type % 256)] :=
    if_pos fits
  have trailer : Port.writeUInt16BE (Port.crc16Ccitt ciphertext) =
      some [.ofNat (Port.crc16Ccitt ciphertext / 256), .ofNat (Port.crc16Ccitt ciphertext % 256)] :=
    if_pos (Port.crc16Ccitt_lt ciphertext)
  have low : ciphertext.length % 65536 < 65536 := by omega
  rw [Port.encodeFrame, type', trailer, Port.writeUInt32BE]
  by_cases small : ciphertext.length < 4294967296
  · have high : ciphertext.length / 65536 < 65536 := by omega
    simp only [if_pos small, Port.writeUInt16BE, if_pos high, if_pos low]
    exact ⟨fun _ => small, fun _ => ⟨_, rfl⟩⟩
  · rw [if_neg small]
    constructor
    · rintro ⟨_, impossible⟩
      cases impossible
    · exact fun small' => absurd small' small

theorem returns_sendFrame_iff {type : ℕ} (fits : type < 65536) (plaintext key : List UInt8) :
    Returns (sendFrame ciphers type plaintext key) ↔
      Returns (Port.Handshake.sealFrame ciphers type plaintext key) := by
  rw [sendFrame, Port.Handshake.sealFrame, returns_bind_iff, returns_bind_iff]
  refine exists_congr fun ciphertext => and_congr_right fun _ => ?_
  rw [returns_encode_iff fits, ← exists_encodeFrame_iff fits]
  cases Port.encodeFrame type ciphertext with
  | none =>
      refine ⟨?_, fun impossible => absurd impossible (not_returns_error _)⟩
      rintro ⟨_, impossible⟩
      cases impossible
  | some bytes => exact ⟨fun _ => returns_ok _, fun _ => ⟨bytes, rfl⟩⟩

theorem returns_sendOffer_iff (deviceId : String) :
    Returns (sendOffer ciphers secrets deviceKey) ↔
      Returns (Port.Handshake.sendOffer ciphers secrets deviceKey
        (Port.Handshake.connection deviceId true none [] [] [])) := by
  rw [sendOffer, Port.Handshake.sendOffer, returns_bind_iff, returns_bind_iff]
  refine exists_congr fun ours => and_congr_right fun drawn => ?_
  have sized : ours.length = pubkeyBytes := ciphers.length_publicKey drawn
  have built : buildEcdhPayload ours secrets.nonce =
      .ok ([0x00, 0x30] ++ ours ++ [0x00, 0x10] ++ secrets.nonce) := by
    rw [buildEcdhPayload, if_neg (not_not.mpr sized), if_neg (not_not.mpr secrets.length_nonce)]
  rw [built, ok_bind, returns_bind_of_forall fun _ => returns_pure _,
    returns_sendFrame_iff (by decide)]
  rfl

theorem returns_sendProof_iff (deviceId : String) (key : List UInt8) :
    Returns (do
        let challengeEncrypted ← ciphers.aesCbcEncrypt key secrets.challenge
        sendFrame ciphers Reference.msgTypeVerify
          ([0x00, 0x04] ++ secrets.challenge ++ [0x00, 0x10] ++ challengeEncrypted) deviceKey) ↔
      Returns (Port.Handshake.sendProof ciphers secrets deviceKey
        (Port.Handshake.connection deviceId true none [] [] []) key) := by
  rw [Port.Handshake.sendProof, returns_bind_iff, returns_bind_iff]
  refine exists_congr fun encrypted => and_congr_right fun _ => ?_
  rw [returns_sendFrame_iff (by decide)]
  rfl

theorem deriveSessionKey_eq_ok_iff (deviceId : String) {offer : Received} {key : List UInt8} :
    deriveSessionKey ciphers secrets deviceKey offer = .ok key ↔
      offer.type = Reference.msgTypeEcdh ∧
        (∃ pubkey shared, Port.Handshake.parseEcdhPayload offer.plaintext = .ok pubkey ∧
          ciphers.sharedSecret secrets.priv pubkey = .ok shared ∧ shared.take 16 = key) ∧
        Returns (Port.Handshake.sendProof ciphers secrets deviceKey
          (Port.Handshake.connection deviceId true none [] [] []) key) := by
  rw [deriveSessionKey]
  by_cases type : offer.type = Reference.msgTypeEcdh
  · rw [if_neg (not_not.mpr type)]
    simp only [bind_eq_ok_iff, Prod.exists, ← returns_sendProof_iff deviceId, returns_bind_iff,
      parseEcdhPayload_eq_ok_iff]
    constructor
    · rintro ⟨pubkey, nonce, parsed, shared, agreed, encrypted, proves, bytes, sent, same⟩
      cases same
      exact ⟨type, ⟨pubkey, shared, ⟨nonce, parsed⟩, agreed, rfl⟩, encrypted, proves, bytes, sent⟩
    · rintro ⟨-, ⟨pubkey, shared, ⟨nonce, parsed⟩, agreed, rfl⟩, encrypted, proves, bytes, sent⟩
      exact ⟨pubkey, nonce, parsed, shared, agreed, encrypted, proves, bytes, sent, rfl⟩
  · rw [if_pos type]
    constructor
    · intro impossible
      cases impossible
    · exact fun derived => absurd derived.1 type

/-- An offer leads the port to a session key when the reference, once it has decrypted it, derives
the same key from it. -/
theorem offers_iff (deviceId : String) (offer : Port.Frame) (key buffer : List UInt8)
    (reads : List (List UInt8)) :
    Port.Handshake.Offers ciphers secrets deviceKey deviceId offer key ↔
      Returns (sendOffer ciphers secrets deviceKey) ∧ ∃ plaintext,
        ciphers.aesCbcDecrypt deviceKey offer.ciphertext = .ok plaintext ∧
          deriveSessionKey ciphers secrets deviceKey ⟨offer.type, plaintext, buffer, reads⟩ =
            .ok key := by
  simp only [deriveSessionKey_eq_ok_iff deviceId, returns_sendOffer_iff deviceId]
  constructor
  · rintro ⟨opens, type, derives, proves⟩
    obtain ⟨plaintext, decrypted, derives⟩ := bind_eq_ok_iff.mp derives
    obtain ⟨pubkey, parsed, derives⟩ := bind_eq_ok_iff.mp derives
    obtain ⟨shared, agreed, same⟩ := bind_eq_ok_iff.mp derives
    exact ⟨opens, plaintext, decrypted, type, ⟨pubkey, shared, parsed, agreed, Except.ok.inj same⟩,
      proves⟩
  · rintro ⟨opens, plaintext, decrypted, type, ⟨pubkey, shared, parsed, agreed, rfl⟩, proves⟩
    refine ⟨opens, type, ?_, proves⟩
    rw [Port.Handshake.deriveSessionKey, decrypted, ok_bind, parsed, ok_bind, agreed]
    rfl

/-- The frame is a proof that the reference accepts. -/
structure AcceptsProof (ciphers : Ciphers) (deviceKey key : List UInt8) (proof : Port.Frame) : Prop where
  type : proof.type = Reference.msgTypeVerify
  checks : ∃ plaintext, ciphers.aesCbcDecrypt deviceKey proof.ciphertext = .ok plaintext ∧
    verifyServerProof ciphers key plaintext = true

theorem checkServerProof_eq_ok_iff {key : List UInt8} {proof : Received} :
    checkServerProof ciphers key proof = .ok () ↔
      proof.type = Reference.msgTypeVerify ∧ verifyServerProof ciphers key proof.plaintext = true := by
  rw [checkServerProof]
  by_cases type : proof.type = Reference.msgTypeVerify
  · rw [if_neg (not_not.mpr type)]
    by_cases proves : verifyServerProof ciphers key proof.plaintext = true
    · rw [if_neg (not_not.mpr proves)]
      exact ⟨fun _ => ⟨type, proves⟩, fun _ => rfl⟩
    · rw [if_pos proves]
      constructor
      · intro impossible
        cases impossible
      · exact fun accepted => absurd accepted.2 proves
  · rw [if_pos type]
    constructor
    · intro impossible
      cases impossible
    · exact fun accepted => absurd accepted.1 type

theorem selectDecryptKey_of_ne {sessionKey : Option (List UInt8)} {type : ℕ}
    (other : type ≠ Reference.msgTypeSession) :
    selectDecryptKey deviceKey sessionKey type = .ok deviceKey := if_neg other

/-- Without a frame there is no offer. -/
theorem handshake_of_nil {ending : Except String (List UInt8)}
    (splits : Splits Port.parseFrame ([] ++ reads.flatten) [] ending) (nonempty : [] ∉ reads)
    (key : List UInt8) : handshake ciphers secrets deviceKey reads ≠ .ok (some key) := by
  rw [handshake]
  intro completed
  obtain ⟨_, -, completed⟩ := bind_eq_ok_iff.mp completed
  obtain ⟨received, taken, completed⟩ := bind_eq_ok_iff.mp completed
  cases received with
  | none => cases completed
  | some received =>
      exact recvFrame_of_nil ciphers deviceKey none splits nonempty received taken

/-- A key comes of an offer and a proof. -/
theorem exists_of_handshake (deviceId : String) {offer : Port.Frame} {rest : List Port.Frame}
    {ending : Except String (List UInt8)}
    (splits : Splits Port.parseFrame ([] ++ reads.flatten) (offer :: rest) ending)
    (nonempty : [] ∉ reads) {key : List UInt8}
    (completed : handshake ciphers secrets deviceKey reads = .ok (some key)) :
    ∃ proof later, rest = proof :: later ∧
      Port.Handshake.Offers ciphers secrets deviceKey deviceId offer key ∧
      AcceptsProof ciphers deviceKey key proof := by
  obtain ⟨buffer, reads', splits', nonempty', received⟩ :=
    recvFrame_of_cons ciphers deviceKey none splits nonempty
  rw [handshake, received] at completed
  obtain ⟨_, opens, completed⟩ := bind_eq_ok_iff.mp completed
  obtain ⟨_, taken, completed⟩ := bind_eq_ok_iff.mp completed
  obtain ⟨_, selected, taken⟩ := bind_eq_ok_iff.mp taken
  obtain ⟨plaintext, decrypted, taken⟩ := bind_eq_ok_iff.mp taken
  cases taken
  obtain ⟨derived, derives, completed⟩ := bind_eq_ok_iff.mp completed
  have type : offer.type = Reference.msgTypeEcdh :=
    ((deriveSessionKey_eq_ok_iff deviceId).mp derives).1
  rw [selectDecryptKey_of_ne (by rw [type]; decide)] at selected
  cases selected
  have offers : Port.Handshake.Offers ciphers secrets deviceKey deviceId offer derived :=
    (offers_iff deviceId offer derived buffer reads').mpr
      ⟨⟨_, opens⟩, plaintext, decrypted, derives⟩
  obtain ⟨received, taken, completed⟩ := bind_eq_ok_iff.mp completed
  cases rest with
  | nil =>
      cases received with
      | none => cases completed
      | some received =>
          exact absurd taken
            (recvFrame_of_nil ciphers deviceKey (some derived) splits' nonempty' received)
  | cons proof later =>
      obtain ⟨_, _, -, -, received'⟩ :=
        recvFrame_of_cons ciphers deviceKey (some derived) splits' nonempty'
      rw [received'] at taken
      obtain ⟨_, selected, taken⟩ := bind_eq_ok_iff.mp taken
      obtain ⟨plaintext', decrypted', taken⟩ := bind_eq_ok_iff.mp taken
      cases taken
      obtain ⟨_, checks, completed⟩ := bind_eq_ok_iff.mp completed
      cases completed
      obtain ⟨type', proves⟩ := checkServerProof_eq_ok_iff.mp checks
      have other : proof.type ≠ Reference.msgTypeSession := by
        rw [show proof.type = Reference.msgTypeVerify from type']
        decide
      rw [selectDecryptKey_of_ne other] at selected
      cases selected
      exact ⟨proof, later, rfl, offers, type', plaintext', decrypted', proves⟩

/-- An offer and a proof that is accepted give the key. -/
theorem handshake_of_accepts {deviceId : String} {offer proof : Port.Frame}
    {later : List Port.Frame} {ending : Except String (List UInt8)}
    (splits : Splits Port.parseFrame ([] ++ reads.flatten) (offer :: proof :: later) ending)
    (nonempty : [] ∉ reads) {key : List UInt8}
    (offers : Port.Handshake.Offers ciphers secrets deviceKey deviceId offer key)
    (accepts : AcceptsProof ciphers deviceKey key proof) :
    handshake ciphers secrets deviceKey reads = .ok (some key) := by
  obtain ⟨type', plaintext', decrypted', proves⟩ := accepts
  obtain ⟨buffer, reads', splits', nonempty', received⟩ :=
    recvFrame_of_cons ciphers deviceKey none splits nonempty
  obtain ⟨⟨_, opens⟩, plaintext, decrypted, derives⟩ :=
    (offers_iff deviceId offer key buffer reads').mp offers
  obtain ⟨buffer', reads'', -, -, received'⟩ :=
    recvFrame_of_cons ciphers deviceKey (some key) splits' nonempty'
  have checks : checkServerProof ciphers key ⟨proof.type, plaintext', buffer', reads''⟩ =
      .ok () := checkServerProof_eq_ok_iff.mpr ⟨type', proves⟩
  rw [handshake, received, opens, ok_bind, selectDecryptKey_of_ne (by rw [offers.type]; decide),
    ok_bind, decrypted, ok_bind, pure_bind]
  simp only
  rw [derives, ok_bind, received', selectDecryptKey_of_ne (by rw [type']; decide), ok_bind,
    decrypted', ok_bind, pure_bind]
  simp only
  rw [checks]
  rfl

/-- The reference completes when the first two frames are an offer and a proof that it accepts. -/
theorem handshake_eq_ok_iff (deviceId : String) {frames : List Port.Frame}
    {ending : Except String (List UInt8)}
    (splits : Splits Port.parseFrame reads.flatten frames ending) (nonempty : [] ∉ reads)
    (key : List UInt8) :
    handshake ciphers secrets deviceKey reads = .ok (some key) ↔
      ∃ offer proof later, frames = offer :: proof :: later ∧
        Port.Handshake.Offers ciphers secrets deviceKey deviceId offer key ∧
        AcceptsProof ciphers deviceKey key proof := by
  rw [← List.nil_append reads.flatten] at splits
  constructor
  · intro completed
    cases frames with
    | nil => exact absurd completed (handshake_of_nil splits nonempty key)
    | cons offer rest =>
        obtain ⟨proof, later, rfl, offers, accepts⟩ :=
          exists_of_handshake deviceId splits nonempty completed
        exact ⟨offer, proof, later, rfl, offers, accepts⟩
  · rintro ⟨offer, proof, later, rfl, offers, accepts⟩
    exact handshake_of_accepts splits nonempty offers accepts

/-! ## The two checks of a proof -/

/-- On a layout that the reference recognises the two checks are the same. -/
theorem verifyServerProof_of_recognised {key plaintext : List UInt8}
    (recognised : Recognised plaintext) :
    verifyServerProof ciphers key plaintext =
      Port.Handshake.hubProvedItself ciphers (some key) plaintext := by
  have long : ¬ plaintext.length < 2 + 16 + 2 + 32 := (not_or.mp recognised).1
  rw [verifyServerProof, if_neg (not_not.mpr recognised), Port.Handshake.hubProvedItself,
    if_neg long]
  rfl

/-- The reference accepts every proof of another layout. -/
theorem verifyServerProof_of_not_recognised {key plaintext : List UInt8}
    (other : ¬ Recognised plaintext) : verifyServerProof ciphers key plaintext = true :=
  if_pos other

theorem verifyServerProof_of_hubProvedItself {key plaintext : List UInt8}
    (proves : Port.Handshake.hubProvedItself ciphers (some key) plaintext = true) :
    verifyServerProof ciphers key plaintext = true := by
  by_cases recognised : Recognised plaintext
  · rw [verifyServerProof_of_recognised recognised, proves]
  · exact verifyServerProof_of_not_recognised recognised

theorem proves_iff {key : List UInt8} {proof : Port.Frame} :
    Port.Handshake.Proves ciphers deviceKey key proof ↔ proof.type = Port.msgTypeVerify ∧
      ∃ plaintext, ciphers.aesCbcDecrypt deviceKey proof.ciphertext = .ok plaintext ∧
        Port.Handshake.hubProvedItself ciphers (some key) plaintext = true := by
  have checks : Port.Handshake.checkProof ciphers deviceKey (some key) proof = .ok () ↔
      ∃ plaintext, ciphers.aesCbcDecrypt deviceKey proof.ciphertext = .ok plaintext ∧
        Port.Handshake.hubProvedItself ciphers (some key) plaintext = true := by
    rw [Port.Handshake.checkProof, bind_eq_ok_iff]
    refine exists_congr fun plaintext => and_congr_right fun _ => ?_
    split
    · rename_i refused
      constructor
      · intro impossible
        cases impossible
      · exact fun proves => absurd proves refused
    · rename_i proves
      exact ⟨fun _ => not_not.mp proves, fun _ => rfl⟩
  constructor
  · rintro ⟨type, checked⟩
    exact ⟨type, checks.mp checked⟩
  · rintro ⟨type, checked⟩
    exact ⟨type, checks.mpr checked⟩

/-- What the port accepts, the reference accepts. -/
theorem accepts_of_proves {key : List UInt8} {proof : Port.Frame}
    (proves : Port.Handshake.Proves ciphers deviceKey key proof) :
    AcceptsProof ciphers deviceKey key proof := by
  obtain ⟨type, plaintext, decrypted, checks⟩ := proves_iff.mp proves
  exact ⟨type, plaintext, decrypted, verifyServerProof_of_hubProvedItself checks⟩

end

/-! ## Equivalence -/

section

open Port.Handshake

variable (ciphers : Ciphers) (secrets : Secrets) (deviceId : String)
variable (parseJson : List UInt8 → Except String Json)
variable {World : Type} (listener : World → Json → Except String World) (world : World)
variable (data : List UInt8)

/-- The two handshakes on the same bytes of a hub: whatever the order of the port's callbacks, once
its writes are done, and however the reference's reads cut the bytes, the one completes with a
session key exactly when the other does. -/
def Equivalent : Prop :=
  ∀ schedule, delivered schedule = data →
    ¬ (run ciphers secrets deviceId parseJson listener world schedule).phase.Sends →
      ∀ reads, [] ∉ reads → reads.flatten = data → ∀ key,
        (Completed (run ciphers secrets deviceId parseJson listener world schedule) key ↔
          Reference.EncryptedTunnel.openTo ciphers secrets deviceId reads = .ok (some key))

/-- The bytes begin with these frames, of which the first is an offer that leads to the key. -/
def Opens (key : List UInt8) (frames : List Port.Frame) : Prop :=
  ∃ offer, (Port.splitFrames data).1 = offer :: frames ∧
    Offers ciphers secrets (Port.deriveDeviceKey deviceId) deviceId offer key

/-- What the hub may send for the two handshakes to be equivalent. -/
structure Conforming : Prop where
  /-- A proof of a layout that is not recognised holds nevertheless. -/
  layout : Ascii deviceId → ∀ key proof later plaintext,
    Opens ciphers secrets deviceId data key (proof :: later) → proof.type = Port.msgTypeVerify →
      ciphers.aesCbcDecrypt (Port.deriveDeviceKey deviceId) proof.ciphertext = .ok plaintext →
        ¬ Reference.EncryptedTunnel.Recognised plaintext →
          hubProvedItself ciphers (some key) plaintext = true
  /-- No session frame behind the proof makes the listener throw, and nothing malformed follows. -/
  quiet : Ascii deviceId → ∀ key proof later,
    Opens ciphers secrets deviceId data key (proof :: later) →
      Proves ciphers (Port.deriveDeviceKey deviceId) key proof →
        Undisturbed ciphers parseJson listener world key later ∧
          (Port.splitFrames data).2.isOk = true
  /-- A proof comes at once, unless the listener throws at a session frame before it, and it comes
  for an ASCII device id. -/
  prompt : ∀ key sessions proof later,
    Opens ciphers secrets deviceId data key (sessions ++ proof :: later) →
      own (some key) sessions = [] → Proves ciphers (Port.deriveDeviceKey deviceId) key proof →
        Returns (hearAll ciphers parseJson listener (some key) world sessions) →
          sessions = [] ∧ Ascii deviceId

variable {ciphers secrets deviceId parseJson listener world data}

/-- The frames of the data and what ends them. -/
theorem splits_splitFrames (data : List UInt8) :
    Splits Port.parseFrame data (Port.splitFrames data).1 (Port.splitFrames data).2 := by
  obtain ⟨frames, ending, splits⟩ := Splits.total Port.incremental_parseFrame data
  rwa [Port.splitFrames_of_splits splits]

/-- What the reference makes of the bytes, whatever the reads. -/
theorem openTo_eq_ok_iff {reads : List (List UInt8)} (nonempty : [] ∉ reads)
    (cut : reads.flatten = data) (key : List UInt8) :
    Reference.EncryptedTunnel.openTo ciphers secrets deviceId reads = .ok (some key) ↔
      Ascii deviceId ∧ ∃ proof later, Opens ciphers secrets deviceId data key (proof :: later) ∧
        AcceptsProof ciphers (Port.deriveDeviceKey deviceId) key proof := by
  subst cut
  have splits := splits_splitFrames reads.flatten
  rw [Reference.EncryptedTunnel.openTo, bind_eq_ok_iff]
  simp only [deriveDeviceKey_eq_ok_iff]
  constructor
  · rintro ⟨_, ⟨ascii, rfl⟩, completed⟩
    obtain ⟨offer, proof, later, parts, offers, accepts⟩ :=
      (handshake_eq_ok_iff deviceId splits nonempty key).mp completed
    exact ⟨ascii, proof, later, ⟨offer, parts, offers⟩, accepts⟩
  · rintro ⟨ascii, proof, later, ⟨offer, parts, offers⟩, accepts⟩
    exact ⟨_, ⟨ascii, rfl⟩, (handshake_eq_ok_iff deviceId splits nonempty key).mpr
      ⟨offer, proof, later, parts, offers, accepts⟩⟩

/-- There are reads for any bytes. -/
theorem exists_reads (data : List UInt8) : ∃ reads : List (List UInt8), [] ∉ reads ∧
    reads.flatten = data := by
  cases data with
  | nil => exact ⟨[], List.not_mem_nil, rfl⟩
  | cons byte data => exact ⟨[byte :: data], by simp, by simp⟩

/-- A frame that is no session frame is the first that is none. -/
theorem eq_nil_of_silent {key : List UInt8} {sessions frames later : List Port.Frame}
    {proof proof' : Port.Frame} (silent : own (some key) sessions = [])
    (verifies : proof'.type = Port.msgTypeVerify)
    (parts : sessions ++ proof :: later = proof' :: frames) : sessions = [] ∧ proof = proof' := by
  cases sessions with
  | nil =>
      injection parts with same _
      exact ⟨rfl, same⟩
  | cons session sessions =>
      injection parts with same _
      have other := type_of_own_eq_nil silent session List.mem_cons_self
      rw [same, verifies] at other
      cases other

/-- A proof that the reference accepts completes the port's handshake in an equivalent pair. -/
theorem completed_of_equivalent
    (equivalent : Equivalent ciphers secrets deviceId parseJson listener world data)
    (ascii : Ascii deviceId) {key : List UInt8} {proof : Port.Frame} {later : List Port.Frame}
    (opens : Opens ciphers secrets deviceId data key (proof :: later))
    (accepts : AcceptsProof ciphers (Port.deriveDeviceKey deviceId) key proof) {schedule : List Event}
    (arrives : delivered schedule = data)
    (sent : ¬ (run ciphers secrets deviceId parseJson listener world schedule).phase.Sends) :
    Completed (run ciphers secrets deviceId parseJson listener world schedule) key := by
  obtain ⟨reads, nonempty, cut⟩ := exists_reads data
  exact (equivalent schedule arrives sent reads nonempty cut key).mpr
    ((openTo_eq_ok_iff nonempty cut key).mpr ⟨ascii, proof, later, opens, accepts⟩)

theorem conforming_of_equivalent
    (equivalent : Equivalent ciphers secrets deviceId parseJson listener world data) :
    Conforming ciphers secrets deviceId parseJson listener world data := by
  have splits := splits_splitFrames data
  constructor
  · intro ascii key proof later plaintext opens type decrypted other
    have accepts : AcceptsProof ciphers (Port.deriveDeviceKey deviceId) key proof :=
      ⟨type, plaintext, decrypted, verifyServerProof_of_not_recognised other⟩
    obtain ⟨schedule, arrives, sent⟩ := exists_sent data
    have completed := completed_of_equivalent equivalent ascii opens accepts arrives sent
    obtain ⟨offer, parts, -⟩ := opens
    obtain ⟨_, sessions, proof', _, parts', -, silent, -, proves⟩ :=
      exists_of_completed splits arrives rfl completed
    injection parts.symm.trans parts' with _ same
    obtain ⟨-, rfl⟩ := eq_nil_of_silent silent type same.symm
    obtain ⟨-, plaintext', decrypted', checks⟩ := proves_iff.mp proves
    cases decrypted.symm.trans decrypted'
    exact checks
  · intro ascii key proof later opens proves
    have completes := fun schedule => @completed_of_equivalent ciphers secrets deviceId parseJson
      World listener world data equivalent ascii key proof later opens (accepts_of_proves proves)
        schedule
    obtain ⟨offer, parts, offers⟩ := opens
    rw [parts] at splits
    constructor
    · rintro suffix ⟨before, rfl⟩
      cases heard : hearAll ciphers parseJson listener (some key) world suffix with
      | ok world' => exact returns_ok world'
      | error thrown =>
          have parted : Splits Port.parseFrame data (offer :: (proof :: before) ++ suffix)
            (Port.splitFrames data).2 := splits
          obtain ⟨schedule, arrives, crashed⟩ := exists_crashed parted offers heard
          have completed := completes schedule arrives (by rw [run, crashed]; exact id)
          exact nomatch completed.phase.symm.trans crashed
    · by_contra stops
      obtain ⟨schedule, arrives, error, failed⟩ :=
        exists_failed splits (Bool.eq_false_of_not_eq_true stops) offers
      have completed := completes schedule arrives (by rw [run, failed]; exact id)
      exact nomatch completed.phase.symm.trans failed
  · rintro key sessions proof later ⟨offer, parts, offers⟩ silent proves ⟨world', heard⟩
    rw [parts] at splits
    obtain ⟨schedule, arrives, completed⟩ := exists_completed splits offers silent heard proves
    obtain ⟨reads, nonempty, cut⟩ := exists_reads data
    have opened := (equivalent schedule arrives (by rw [run, completed.phase]; exact id) reads
      nonempty cut key).mp completed
    obtain ⟨ascii, proof', later', ⟨offer', parts', -⟩, accepts⟩ :=
      (openTo_eq_ok_iff nonempty cut key).mp opened
    injection parts.symm.trans parts' with _ same
    exact ⟨(eq_nil_of_silent silent accepts.type same).1, ascii⟩

theorem equivalent_of_conforming
    (conforming : Conforming ciphers secrets deviceId parseJson listener world data) :
    Equivalent ciphers secrets deviceId parseJson listener world data := by
  have splits := splits_splitFrames data
  intro schedule arrives sent reads nonempty cut key
  rw [openTo_eq_ok_iff nonempty cut]
  constructor
  · intro completed
    obtain ⟨offer, sessions, proof, later, parts, offers, silent, heard, proves⟩ :=
      exists_of_completed splits arrives rfl completed
    obtain ⟨rfl, ascii⟩ :=
      conforming.prompt key sessions proof later ⟨offer, parts, offers⟩ silent proves heard
    exact ⟨ascii, proof, later, ⟨offer, parts, offers⟩, accepts_of_proves proves⟩
  · rintro ⟨ascii, proof, later, opens, type, plaintext, decrypted, verifies⟩
    have checks : hubProvedItself ciphers (some key) plaintext = true := by
      by_cases recognised : Reference.EncryptedTunnel.Recognised plaintext
      · rwa [← verifyServerProof_of_recognised recognised]
      · exact conforming.layout ascii key proof later plaintext opens type decrypted recognised
    have proves : Proves ciphers (Port.deriveDeviceKey deviceId) key proof :=
      proves_iff.mpr ⟨type, plaintext, decrypted, checks⟩
    obtain ⟨quiet, waits⟩ := conforming.quiet ascii key proof later opens proves
    obtain ⟨offer, parts, offers⟩ := opens
    exact completed_of_prompt splits waits arrives rfl sent parts offers proves quiet

end

/-- The two handshakes are equivalent on the bytes of a hub exactly when these conform. -/
theorem handshakes_equivalent_iff (ciphers : Ciphers) (secrets : Secrets) (deviceId : String)
    (parseJson : List UInt8 → Except String Json) {World : Type}
    (listener : World → Json → Except String World) (world : World) (data : List UInt8) :
    Equivalent ciphers secrets deviceId parseJson listener world data ↔
      Conforming ciphers secrets deviceId parseJson listener world data :=
  ⟨conforming_of_equivalent, equivalent_of_conforming⟩

/-! ## A proof of another layout -/

/-- Ciphers that leave everything as it is. -/
def plainCiphers : Ciphers where
  aesCbcEncrypt _ plaintext := .ok plaintext
  aesCbcDecrypt _ ciphertext := .ok ciphertext
  publicKeyFromPrivate _ := .ok (List.replicate 48 1)
  sharedSecret _ _ := .ok (List.replicate 24 2)
  length_publicKey drawn := by
    cases drawn
    rfl

def plainSecrets : Secrets where
  priv := List.replicate 24 3
  nonce := List.replicate 16 4
  challenge := [1, 2, 3, 4]
  length_nonce := rfl

/-- A key exchange, and a verify frame that is too short for the layout of the captures. -/
def keyExchange : Port.Frame := ⟨Port.msgTypeEcdh, [0x00, 0x30] ++ List.replicate 48 5⟩

def shortProof : Port.Frame := ⟨Port.msgTypeVerify, [0x99, 0x73, 0x68, 0x6F, 0x72, 0x74]⟩

theorem returns_sealFrame {type : ℕ} (fits : type < 65536) {plaintext : List UInt8}
    (small : plaintext.length < 2 ^ 32) (key : List UInt8) :
    Returns (Port.Handshake.sealFrame plainCiphers type plaintext key) := by
  obtain ⟨bytes, encoded⟩ := (exists_encodeFrame_iff fits plaintext).mpr small
  refine ⟨bytes, ?_⟩
  have encrypted : plainCiphers.aesCbcEncrypt key plaintext = .ok plaintext := rfl
  rw [Port.Handshake.sealFrame, encrypted, ok_bind, encoded]
  rfl

theorem keyExchange_offers (deviceId : String) (deviceKey : List UInt8) :
    Port.Handshake.Offers plainCiphers plainSecrets deviceKey deviceId keyExchange
      (List.replicate 16 2) where
  opens := by
    have drawn : plainCiphers.publicKeyFromPrivate plainSecrets.priv =
        .ok (List.replicate 48 1) := rfl
    rw [Port.Handshake.sendOffer, drawn, ok_bind, Port.Handshake.sendFrame,
      if_neg (not_not.mpr (by rfl))]
    exact returns_sealFrame (by decide) (by simp [plainSecrets]) deviceKey
  type := rfl
  derives := rfl
  proves := by
    have encrypted : plainCiphers.aesCbcEncrypt (List.replicate 16 2) plainSecrets.challenge =
        .ok plainSecrets.challenge := rfl
    rw [Port.Handshake.sendProof, encrypted, ok_bind, Port.Handshake.sendFrame,
      if_neg (not_not.mpr (by rfl))]
    exact returns_sealFrame (by decide) (by simp [plainSecrets]) deviceKey

/-- The reference accepts the short proof on purpose, and the port refuses it. -/
theorem short_proof_refused :
    ¬ Equivalent plainCiphers plainSecrets "lumi1.TESTHUB00001" (fun _ => .ok .null)
      (fun (world : Unit) _ => .ok world) () ([keyExchange, shortProof].flatMap Port.Frame.bytes) := by
  intro equivalent
  have conforming := conforming_of_equivalent equivalent
  have sendable : ∀ frame ∈ [keyExchange, shortProof], frame.Sendable := by
    simp only [List.forall_mem_cons]
    exact ⟨⟨by decide, by decide⟩, ⟨by decide, by decide⟩, by simp⟩
  have splits := Port.splits_bytes sendable Port.splits_nil
  rw [List.append_nil] at splits
  have opens : Opens plainCiphers plainSecrets "lumi1.TESTHUB00001"
      ([keyExchange, shortProof].flatMap Port.Frame.bytes) (List.replicate 16 2) [shortProof] :=
    ⟨keyExchange, by rw [Port.splitFrames_of_splits splits], keyExchange_offers _ _⟩
  have ascii : Ascii "lumi1.TESTHUB00001" := by simp [Ascii]
  have checks := conforming.layout ascii _ shortProof [] shortProof.ciphertext opens rfl rfl
    (by decide)
  cases checks

end Comparison
end AqaraLanLink
