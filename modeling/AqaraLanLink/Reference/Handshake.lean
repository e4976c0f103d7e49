import AqaraLanLink.Ciphers
import AqaraLanLink.Reference.Crypto

/-!
# The reference's handshake

`EncryptedTunnel._handshake` of `hub/tunnel.py` with the frames it reads.  What it writes matters
only when it cannot be written.
-/

namespace AqaraLanLink
namespace Reference

namespace EncryptedTunnel

def pubkeyBytes : ℕ := 48

/-- `_build_ecdh_payload`. -/
def buildEcdhPayload (pubkey nonce : List UInt8) : Except String (List UInt8) :=
  if pubkey.length ≠ pubkeyBytes then .error s!"pubkey must be {pubkeyBytes} bytes"
  else if nonce.length ≠ 16 then .error "nonce must be 16 bytes"
  else .ok ([0x00, 0x30] ++ pubkey ++ [0x00, 0x10] ++ nonce)

/-- `_parse_ecdh_payload`: the public key, and the nonce when there is one. -/
def parseEcdhPayload (plaintext : List UInt8) : Except String (List UInt8 × Option (List UInt8)) :=
  if plaintext.length < 2 + pubkeyBytes then .error "ECDH plaintext too short"
  else if plaintext.take 2 ≠ [0x00, 0x30] then
    .error s!"Unexpected ECDH header: {hex (plaintext.take 2)}"
  else
    let pubkey := (plaintext.drop 2).take pubkeyBytes
    let cursor := 2 + pubkeyBytes
    if plaintext.length < cursor + 2 + 16 then .ok (pubkey, none)
    else if (plaintext.drop cursor).take 2 ≠ [0x00, 0x10] then .ok (pubkey, none)
    else .ok (pubkey, some ((plaintext.drop (cursor + 2)).take 16))

/-- `_select_decrypt_key`. -/
def selectDecryptKey (deviceKey : List UInt8) (sessionKey : Option (List UInt8)) (frameType : ℕ) :
    Except String (List UInt8) :=
  if frameType = msgTypeSession then
    match sessionKey with
    | none => .error "Received session frame before session key was set"
    | some key => .ok key
  else .ok deviceKey

/-- The verify frame has the layout of the captures: `00 10 <enc1:16> 00 20 <enc2:32>`. -/
def Recognised (plaintext : List UInt8) : Prop :=
  ¬ (plaintext.length < 2 + 16 + 2 + 32 ∨ plaintext.take 2 ≠ [0x00, 0x10] ∨
    (plaintext.drop 18).take 2 ≠ [0x00, 0x20])

instance (plaintext : List UInt8) : Decidable (Recognised plaintext) :=
  inferInstanceAs (Decidable (¬ _))

/-- A frame that `_recv_frame` returns, and what it leaves for the next. -/
structure Received where
  type : ℕ
  plaintext : List UInt8
  /-- `_recv_buf`. -/
  buffer : List UInt8
  /-- The reads of the socket that are still to come. -/
  reads : List (List UInt8)

section

variable (ciphers : Ciphers)

/-- `_verify_server_proof`. -/
def verifyServerProof (sessionKey plaintext : List UInt8) : Bool :=
  if ¬ Recognised plaintext then true
  else
    let enc1 := (plaintext.drop 2).take 16
    let enc2 := (plaintext.drop 20).take 32
    match ciphers.aesCbcDecrypt sessionKey enc2 with
    | .ok decrypted => decrypted == enc1
    | .error _ => false

/-- `_send_frame` on a connected tunnel: the bytes it writes. -/
def sendFrame (msgType : ℕ) (plaintext key : List UInt8) : Except String (List UInt8) := do
  let ciphertext ← ciphers.aesCbcEncrypt key plaintext
  Frame.encode ⟨msgType, ciphertext⟩

variable (secrets : Secrets) (deviceKey : List UInt8)

/-- `_recv_frame` over the reads of the socket that are to come.  An empty read is the end of the
stream; without a further read it is still waiting. -/
def recvFrame (sessionKey : Option (List UInt8)) (buffer : List UInt8) (reads : List (List UInt8)) :
    Except String (Option Received) :=
  match parseFrame buffer with
  | .error error => .error s!"Bad frame: {error}"
  | .ok (some (frame, rest)) => do
      let key ← selectDecryptKey deviceKey sessionKey frame.type
      let plaintext ← ciphers.aesCbcDecrypt key frame.ciphertext
      pure (some ⟨frame.type, plaintext, rest, reads⟩)
  | .ok none =>
      match reads with
      | [] => .ok none
      | chunk :: reads =>
          if chunk = [] then .error "Tunnel closed by peer"
          else recvFrame sessionKey (buffer ++ chunk) reads

/-- Step 1 of `_handshake`: what goes out before anything comes in. -/
def sendOffer : Except String Unit := do
  let ourPub ← ciphers.publicKeyFromPrivate secrets.priv
  let out ← buildEcdhPayload ourPub secrets.nonce
  let _ ← sendFrame ciphers msgTypeEcdh out deviceKey

/-- Steps 2 to 4: the session key that the hub's offer leads to, and the client's proof. -/
def deriveSessionKey (offer : Received) : Except String (List UInt8) := do
  if offer.type ≠ msgTypeEcdh then
    throw s!"Expected ECDH frame 0x2020, got 0x{formatHex 4 offer.type}"
  let (serverPub, _) ← parseEcdhPayload offer.plaintext
  let shared ← ciphers.sharedSecret secrets.priv serverPub
  let sessionKey := shared.take 16
  let challengeEncrypted ← ciphers.aesCbcEncrypt sessionKey secrets.challenge
  let verifyPayload := [0x00, 0x04] ++ secrets.challenge ++ [0x00, 0x10] ++ challengeEncrypted
  let _ ← sendFrame ciphers msgTypeVerify verifyPayload deviceKey
  pure sessionKey

/-- Step 5: the hub's proof. -/
def checkServerProof (sessionKey : List UInt8) (proof : Received) : Except String Unit := do
  if proof.type ≠ msgTypeVerify then
    throw s!"Expected verify frame 0x201b, got 0x{formatHex 4 proof.type}"
  if ¬ verifyServerProof ciphers sessionKey proof.plaintext then
    throw "Server failed session-key verification"

/-- `_handshake`: the session key once it is complete, or nothing while it waits for the hub. -/
def handshake (reads : List (List UInt8)) : Except String (Option (List UInt8)) := do
  sendOffer ciphers secrets deviceKey
  match ← recvFrame ciphers deviceKey none [] reads with
  | none => pure none
  | some offer =>
      let sessionKey ← deriveSessionKey ciphers secrets deviceKey offer
      match ← recvFrame ciphers deviceKey (some sessionKey) offer.buffer offer.reads with
      | none => pure none
      | some proof =>
          checkServerProof ciphers sessionKey proof
          pure (some sessionKey)

/-- The constructor of the tunnel to a device id and then `_handshake`. -/
def openTo (deviceId : String) (reads : List (List UInt8)) : Except String (Option (List UInt8)) := do
  handshake ciphers secrets (← deriveDeviceKey deviceId) reads

end

end EncryptedTunnel
end Reference
end AqaraLanLink
