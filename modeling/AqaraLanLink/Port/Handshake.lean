import AqaraLanLink.Ciphers
import AqaraLanLink.Port.Buffering
import AqaraLanLink.Port.DeviceKey

/-!
# The port's handshake

`AqaraTunnel.handshake` between the socket's callbacks.  `await` lets the write callbacks and the
chunks of the hub come in any order: frames that come before they are asked for are queued, and
session frames are dispatched as soon as there is a key.
-/

namespace AqaraLanLink
namespace Port

open Library

namespace Handshake

def pubkeyBytes : ℕ := 48

/-- `parseEcdhPayload`. -/
def parseEcdhPayload (plaintext : List UInt8) : Except String (List UInt8) :=
  if plaintext.length < 2 + pubkeyBytes then
    .error "The hub sent a key exchange that is too short to hold a key"
  else if plaintext.getD 0 0 ≠ 0x00 ∨ plaintext.getD 1 0 ≠ 0x30 then
    .error s!"Unexpected key exchange header: {hexBytes (plaintext.take 2)}"
  else .ok ((plaintext.drop 2).take pubkeyBytes)

/-- Where `handshake` stands. -/
inductive Phase where
  /-- Its first frame is being written. -/
  | sendingOffer
  /-- It waits for the hub's public key. -/
  | awaitingOffer
  /-- Its proof is being written. -/
  | sendingProof
  /-- It waits for the hub's proof. -/
  | awaitingProof
  /-- Its promise has resolved. -/
  | established
  /-- Its promise has been rejected. -/
  | failed (error : String)
  /-- A socket callback has thrown. -/
  | crashed (thrown : String)

/-- A write is under way. -/
def Phase.Sends : Phase → Prop
  | .sendingOffer | .sendingProof => True
  | _ => False

/-- The tunnel in a handshake. -/
structure State (World : Type) where
  tunnel : Tunnel
  /-- The state of the `message` listener. -/
  world : World
  phase : Phase

/-- A callback of the socket. -/
inductive Event where
  /-- The write that is under way is done. -/
  | written
  | data (chunk : List UInt8)

/-- The bytes that arrive in a schedule. -/
def delivered (schedule : List Event) : List UInt8 :=
  schedule.flatMap fun
    | .written => []
    | .data chunk => chunk

/-- The tunnel of a handshake, with its socket or without. -/
def connection (deviceId : String) (socket : Bool) (sessionKey : Option (List UInt8))
    (frames : List Frame) (frameWaiters : List ℕ) (buffer : List UInt8) : Tunnel where
  deviceId
  sessionKey
  hasSocket := socket
  writable := socket
  buffer
  frames
  frameWaiters
  pending := []
  seq := 0
  keepaliveTimer := false

/-- The caller of `nextFrame` that an effect wakes, by the type it waits for, and its frame. -/
def handed : Effect → Option (ℕ × Frame)
  | .handshake expected frame => some (expected, frame)
  | _ => none

section

variable (ciphers : Ciphers) (secrets : Secrets) (deviceKey : List UInt8)
variable {World : Type}

/-- `hubProvedItself`.  Without a key `aesCbcDecrypt` throws. -/
def hubProvedItself (sessionKey : Option (List UInt8)) (plaintext : List UInt8) : Bool :=
  if plaintext.length < 2 + 16 + 2 + 32 then false
  else
    let first := (plaintext.drop 2).take 16
    let second := (plaintext.drop 20).take 32
    sessionKey.any fun key =>
      match ciphers.aesCbcDecrypt key second with
      | .ok decrypted => decrypted == first
      | .error _ => false

/-- What `sendFrame` writes to a socket. -/
def sealFrame (type : ℕ) (plaintext key : List UInt8) : Except String (List UInt8) := do
  let ciphertext ← ciphers.aesCbcEncrypt key plaintext
  match encodeFrame type ciphertext with
  | some bytes => pure bytes
  | none => throw "The value of \"value\" is out of range"

def sendFrame (tunnel : Tunnel) (type : ℕ) (plaintext key : List UInt8) :
    Except String (List UInt8) :=
  if ¬ tunnel.hasSocket then .error "The tunnel is closed" else sealFrame ciphers type plaintext key

/-- The frame that opens the handshake. -/
def sendOffer (tunnel : Tunnel) : Except String (List UInt8) := do
  let ours ← ciphers.publicKeyFromPrivate secrets.priv
  sendFrame ciphers tunnel msgTypeEcdh ([0x00, 0x30] ++ ours ++ [0x00, 0x10] ++ secrets.nonce)
    deviceKey

/-- The session key that a frame of the hub leads to. -/
def deriveSessionKey (offer : Frame) : Except String (List UInt8) := do
  let plaintext ← ciphers.aesCbcDecrypt deviceKey offer.ciphertext
  let theirs ← parseEcdhPayload plaintext
  let secret ← ciphers.sharedSecret secrets.priv theirs
  pure (secret.take 16)

/-- The frame that proves that the client has the key. -/
def sendProof (tunnel : Tunnel) (sessionKey : List UInt8) : Except String (List UInt8) := do
  let encrypted ← ciphers.aesCbcEncrypt sessionKey secrets.challenge
  sendFrame ciphers tunnel msgTypeVerify
    ([0x00, 0x04] ++ secrets.challenge ++ [0x00, 0x10] ++ encrypted) deviceKey

/-- The check of the hub's proof. -/
def checkProof (sessionKey : Option (List UInt8)) (proof : Frame) : Except String Unit := do
  let plaintext ← ciphers.aesCbcDecrypt deviceKey proof.ciphertext
  if ¬ hubProvedItself ciphers sessionKey plaintext then
    throw "The hub failed to prove it holds the session key"

/-- `handshake` up to its first `await`. -/
def start (deviceId : String) (world : World) : State World :=
  let tunnel := connection deviceId true none [] [] []
  match sendOffer ciphers secrets deviceKey tunnel with
  | .error error => ⟨tunnel, world, .failed error⟩
  | .ok _ => ⟨tunnel, world, .sendingOffer⟩

/-- `handshake` goes on with the hub's offer. -/
def offered (state : State World) (offer : Frame) : State World :=
  match deriveSessionKey ciphers secrets deviceKey offer with
  | .error error => { state with phase := .failed error }
  | .ok key =>
      let tunnel := { state.tunnel with sessionKey := some key }
      match sendProof ciphers secrets deviceKey tunnel key with
      | .error error => { state with tunnel, phase := .failed error }
      | .ok _ => { state with tunnel, phase := .sendingProof }

/-- `handshake` goes on with the hub's proof. -/
def proved (state : State World) (proof : Frame) : State World :=
  match checkProof ciphers deviceKey state.tunnel.sessionKey proof with
  | .error error => { state with phase := .failed error }
  | .ok _ =>
      { state with tunnel := { state.tunnel with keepaliveTimer := true }, phase := .established }

/-- What `nextFrame` resolves or rejects with reaches `handshake`. -/
def answer (state : State World) (frame : Except String Frame) : State World :=
  match frame with
  | .error error => { state with phase := .failed error }
  | .ok frame =>
      match state.phase with
      | .sendingOffer | .awaitingOffer => offered ciphers secrets deviceKey state frame
      | _ => proved ciphers deviceKey state frame

/-- `handshake` calls `nextFrame`. -/
def ask (state : State World) (type : ℕ) (waiting : Phase) : State World :=
  match state.tunnel.nextFrame type with
  | (tunnel, none) => { state with tunnel, phase := waiting }
  | (tunnel, some frame) => answer ciphers secrets deviceKey { state with tunnel } frame

variable (parseJson : List UInt8 → Except String Json)
variable (listener : World → Json → Except String World)

/-- A chunk arrives.  `handshake` goes on when `onData` has returned. -/
def onChunk (state : State World) (chunk : List UInt8) : State World :=
  if ¬ state.tunnel.hasSocket then state
  else
    match state.tunnel.onData ciphers.aesCbcDecrypt parseJson listener state.world chunk with
    | .error thrown => { state with phase := .crashed thrown }
    | .ok (tunnel, world, effects) =>
        match effects.findSome? handed with
        | none => { tunnel, world, phase := state.phase }
        | some (expected, frame) =>
            answer ciphers secrets deviceKey { tunnel, world, phase := state.phase }
              (Tunnel.expect frame expected)

/-- One callback.  What comes after the handshake belongs to the session. -/
def step (state : State World) : Event → State World
  | .written =>
      match state.phase with
      | .sendingOffer => ask ciphers secrets deviceKey state msgTypeEcdh .awaitingOffer
      | .sendingProof => ask ciphers secrets deviceKey state msgTypeVerify .awaitingProof
      | _ => state
  | .data chunk =>
      match state.phase with
      | .established | .failed _ | .crashed _ => state
      | _ => onChunk ciphers secrets deviceKey parseJson listener state chunk

end

/-- `handshake` on a new socket to the hub with this device id. -/
def run (ciphers : Ciphers) (secrets : Secrets) (deviceId : String)
    (parseJson : List UInt8 → Except String Json) {World : Type}
    (listener : World → Json → Except String World) (world : World) (schedule : List Event) :
    State World :=
  let deviceKey := deriveDeviceKey deviceId
  schedule.foldl (step ciphers secrets deviceKey parseJson listener)
    (start ciphers secrets deviceKey deviceId world)

/-! ## What frames do to the tunnel -/

section

variable (aesCbcDecrypt : List UInt8 → List UInt8 → Except String (List UInt8))
variable (parseJson : List UInt8 → Except String Json)
variable {World : Type} (listener : World → Json → Except String World)

/-- A frame reaches the listener when it is a session frame and there is a key to read it with. -/
def hear (sessionKey : Option (List UInt8)) (world : World) (frame : Frame) : Except String World :=
  match sessionKey with
  | none => .ok world
  | some key =>
      if frame.type ≠ msgTypeSession then .ok world
      else
        match Tunnel.readMessage aesCbcDecrypt parseJson key frame with
        | .error _ => .ok world
        | .ok .null => .error "Cannot read properties of null (reading 'seq')"
        | .ok message => listener world message

/-- The frames that are for the handshake. -/
def own (sessionKey : Option (List UInt8)) (frames : List Frame) : List Frame :=
  frames.filter fun frame => sessionKey.isNone || frame.type != msgTypeSession

/-- The frame that is handed to the caller of `nextFrame` among these. -/
def firstHanded (waiters : List ℕ) (frames : List Frame) : Option (ℕ × Frame) :=
  waiters.head?.bind fun expected => frames.head?.map fun frame => (expected, frame)

section

variable (deviceId : String) {sessionKey : Option (List UInt8)} (queue : List Frame)
  (waiters : List ℕ) (buffer : List UInt8) {world world' : World} {frame : Frame}

theorem hear_of_message {key : List UInt8} {message : Json} (session : frame.type = msgTypeSession)
    (read : Tunnel.readMessage aesCbcDecrypt parseJson key frame = .ok message)
    (present : message ≠ .null) :
    hear aesCbcDecrypt parseJson listener (some key) world frame = listener world message := by
  simp only [hear, if_neg (not_not.mpr session), read]

theorem dispatch_connection {message : Json} (present : message ≠ .null) :
    (connection deviceId true sessionKey queue waiters buffer).dispatch message =
      .ok (connection deviceId true sessionKey queue waiters buffer, .message message) := by
  have nobody : (connection deviceId true sessionKey queue waiters buffer).waitingFor
      (message.get? "seq") = none := by
    cases message.get? "seq" with
    | none => rfl
    | some value =>
        cases value with
        | number _ => rfl
        | _ => rfl
  rw [Tunnel.dispatch_of_ne_null present, nobody]

theorem own_cons (frame : Frame) (frames : List Frame) :
    own sessionKey (frame :: frames) = own sessionKey [frame] ++ own sessionKey frames :=
  List.filter_append [frame] frames

theorem own_of_mine (mine : sessionKey = none ∨ frame.type ≠ msgTypeSession) :
    own sessionKey [frame] = [frame] := by
  rcases mine with rfl | other
  · rfl
  · simp [own, other]

theorem own_of_session {key : List UInt8} (session : frame.type = msgTypeSession) :
    own (some key) [frame] = [] := by
  simp [own, session]

theorem firstHanded_append (frames later : List Frame) :
    firstHanded waiters (frames ++ later) =
      (firstHanded waiters frames).or (firstHanded (waiters.drop frames.length) later) := by
  cases waiters with
  | nil => simp [firstHanded]
  | cons expected waiters =>
      cases frames with
      | nil => rfl
      | cons frame frames => rfl

/-- A frame that is for the handshake goes to it, and any other to the listener. -/
theorem mine_or_session (sessionKey : Option (List UInt8)) (frame : Frame) :
    (sessionKey = none ∨ frame.type ≠ msgTypeSession) ∨
      ∃ key, sessionKey = some key ∧ frame.type = msgTypeSession := by
  cases sessionKey with
  | none => exact Or.inl (Or.inl rfl)
  | some key =>
      rcases eq_or_ne frame.type msgTypeSession with session | other
      · exact Or.inr ⟨key, rfl, session⟩
      · exact Or.inl (Or.inr other)

theorem hear_of_mine (mine : sessionKey = none ∨ frame.type ≠ msgTypeSession) :
    hear aesCbcDecrypt parseJson listener sessionKey world frame = .ok world := by
  rcases mine with rfl | other
  · rfl
  · cases sessionKey with
    | none => rfl
    | some key => exact if_pos other

/-- What `onFrame` makes of a frame that is heard. -/
theorem handle_of_heard
    (heard : hear aesCbcDecrypt parseJson listener sessionKey world frame = .ok world') :
    ∃ effect, handed effect = firstHanded waiters (own sessionKey [frame]) ∧
      (connection deviceId true sessionKey queue waiters buffer).handle aesCbcDecrypt parseJson listener
        world frame = .ok (connection deviceId true sessionKey
          (queue ++ (own sessionKey [frame]).drop waiters.length)
          (waiters.drop (own sessionKey [frame]).length) buffer, world', effect) := by
  rcases mine_or_session sessionKey frame with mine | ⟨key, rfl, session⟩
  · rw [hear_of_mine _ _ _ mine] at heard
    cases heard
    rw [own_of_mine mine, Tunnel.handle, Tunnel.onFrame_of_handshake _ _ mine]
    cases waiters with
    | nil => exact ⟨_, rfl, rfl⟩
    | cons expected waiters =>
        refine ⟨.handshake expected frame, rfl, ?_⟩
        simp [Tunnel.onHandshakeFrame, connection, Tunnel.runListener, pure, Except.pure]
  · rw [own_of_session session, Tunnel.handle, Tunnel.onFrame_of_session _ _ rfl session]
    have nobody : firstHanded waiters [] = none := by simp [firstHanded]
    rw [nobody, List.drop_nil, List.append_nil, List.length_nil, List.drop_zero]
    cases read : Tunnel.readMessage aesCbcDecrypt parseJson key frame with
    | error error =>
        simp only [hear, if_neg (not_not.mpr session), read] at heard
        cases heard
        exact ⟨_, rfl, rfl⟩
    | ok message =>
        have present : message ≠ .null := by
          rintro rfl
          simp only [hear, if_neg (not_not.mpr session), read] at heard
          cases heard
        rw [hear_of_message _ _ _ session read present] at heard
        simp only [dispatch_connection _ _ _ _ present, ok_bind, Tunnel.runListener, heard]
        exact ⟨_, rfl, rfl⟩

/-- A frame whose listener throws makes `onFrame` throw. -/
theorem handle_of_unheard {thrown : String}
    (unheard : hear aesCbcDecrypt parseJson listener sessionKey world frame = .error thrown) :
    (connection deviceId true sessionKey queue waiters buffer).handle aesCbcDecrypt parseJson listener
      world frame = .error thrown := by
  rcases mine_or_session sessionKey frame with mine | ⟨key, rfl, session⟩
  · rw [hear_of_mine _ _ _ mine] at unheard
    cases unheard
  · rw [Tunnel.handle, Tunnel.onFrame_of_session _ _ rfl session]
    cases read : Tunnel.readMessage aesCbcDecrypt parseJson key frame with
    | error error =>
        simp only [hear, if_neg (not_not.mpr session), read] at unheard
        cases unheard
    | ok message =>
        by_cases null : message = .null
        · rw [null] at read ⊢
          simp only [hear, if_neg (not_not.mpr session), read] at unheard
          cases unheard
          rfl
        · rw [hear_of_message _ _ _ session read null] at unheard
          simp only [dispatch_connection _ _ _ _ null, ok_bind, Tunnel.runListener, unheard]
          rfl

/-- Frames that are all heard serve the waiters in order and queue up behind them. -/
theorem handOver_of_heard {frames : List Frame}
    (heard : frames.foldlM (hear aesCbcDecrypt parseJson listener sessionKey) world = .ok world') :
    ∃ effects, effects.findSome? handed = firstHanded waiters (own sessionKey frames) ∧
      ((connection deviceId true sessionKey queue waiters buffer).handOver aesCbcDecrypt parseJson
        listener world frames).2 = .ok (connection deviceId true sessionKey
          (queue ++ (own sessionKey frames).drop waiters.length)
          (waiters.drop (own sessionKey frames).length) buffer, world', effects) := by
  induction frames generalizing queue waiters world with
  | nil =>
      cases heard
      exact ⟨[], by simp [firstHanded, own], by simp [Tunnel.handOver, own]⟩
  | cons frame frames induction =>
      obtain ⟨next, first, rest⟩ := bind_eq_ok_iff.mp heard
      obtain ⟨effect, given, handled⟩ :=
        handle_of_heard aesCbcDecrypt parseJson listener deviceId queue waiters buffer first
      obtain ⟨effects, others, handedOver⟩ := induction
        (queue ++ (own sessionKey [frame]).drop waiters.length)
        (waiters.drop (own sessionKey [frame]).length) rest
      refine ⟨effect :: effects, ?_, ?_⟩
      · rw [List.findSome?_cons, given, others, own_cons frame frames, firstHanded_append]
        cases firstHanded waiters (own sessionKey [frame]) with
        | none => rfl
        | some _ => rfl
      · rw [Tunnel.handOver, handled]
        simp only
        rw [handedOver, own_cons frame frames, List.append_assoc, List.drop_append, List.length_drop,
          List.drop_drop, List.length_append]
        rfl

/-- Frames of which one is not heard are not all handed over. -/
theorem handOver_of_unheard {frames : List Frame} {thrown : String}
    (unheard : frames.foldlM (hear aesCbcDecrypt parseJson listener sessionKey) world =
      .error thrown) :
    ((connection deviceId true sessionKey queue waiters buffer).handOver aesCbcDecrypt parseJson
      listener world frames).2 = .error thrown := by
  induction frames generalizing queue waiters world with
  | nil => cases unheard
  | cons frame frames induction =>
      rw [List.foldlM_cons] at unheard
      cases first : hear aesCbcDecrypt parseJson listener sessionKey world frame with
      | error thrown' =>
          rw [first] at unheard
          cases unheard
          rw [Tunnel.handOver,
            handle_of_unheard aesCbcDecrypt parseJson listener deviceId queue waiters buffer first]
      | ok next =>
          rw [first, ok_bind] at unheard
          obtain ⟨effect, -, handled⟩ :=
            handle_of_heard aesCbcDecrypt parseJson listener deviceId queue waiters buffer first
          rw [Tunnel.handOver, handled]
          simp only
          rw [induction _ _ unheard]
          rfl

end
end

/-! ## What the hub has to send -/

section

variable (ciphers : Ciphers) (secrets : Secrets) (deviceKey : List UInt8) (deviceId : String)

/-- The frame is an offer that leads to this session key. -/
structure Offers (offer : Frame) (key : List UInt8) : Prop where
  /-- The client's own offer goes out. -/
  opens : Returns (sendOffer ciphers secrets deviceKey (connection deviceId true none [] [] []))
  type : offer.type = msgTypeEcdh
  derives : deriveSessionKey ciphers secrets deviceKey offer = .ok key
  /-- So does its proof. -/
  proves : Returns (sendProof ciphers secrets deviceKey (connection deviceId true none [] [] []) key)

/-- The frame is a proof that the hub has this session key. -/
structure Proves (key : List UInt8) (proof : Frame) : Prop where
  type : proof.type = msgTypeVerify
  checks : checkProof ciphers deviceKey (some key) proof = .ok ()

variable {ciphers secrets deviceKey deviceId}

theorem Offers.unique {offer : Frame} {key key' : List UInt8}
    (offers : Offers ciphers secrets deviceKey deviceId offer key)
    (offers' : Offers ciphers secrets deviceKey deviceId offer key') : key = key' :=
  Except.ok.inj (offers.derives.symm.trans offers'.derives)

variable {World : Type} {world : World} {phase : Phase} {socket : Bool} {queue : List Frame}
  {waiters : List ℕ} {buffer : List UInt8} {offer proof : Frame} {key : List UInt8}

/-- `handshake` has not had the hub's offer. -/
def Phase.Offering (phase : Phase) : Prop := phase = .sendingOffer ∨ phase = .awaitingOffer

/-- `handshake` has had the offer and not the proof. -/
def Phase.Proving (phase : Phase) : Prop := phase = .sendingProof ∨ phase = .awaitingProof

theorem sendProof_connection (sessionKey : Option (List UInt8)) :
    sendProof ciphers secrets deviceKey (connection deviceId true sessionKey queue waiters buffer)
        key =
      sendProof ciphers secrets deviceKey (connection deviceId true none [] [] []) key := rfl

/-- An offer that leads to a session key is answered with the client's proof. -/
theorem answer_of_offers (offering : phase.Offering)
    (offers : Offers ciphers secrets deviceKey deviceId offer key) :
    answer ciphers secrets deviceKey
        ⟨connection deviceId true none queue waiters buffer, world, phase⟩
        (Tunnel.expect offer msgTypeEcdh) =
      ⟨connection deviceId true (some key) queue waiters buffer, world, .sendingProof⟩ := by
  obtain ⟨bytes, proves⟩ := offers.proves
  have goes : offered ciphers secrets deviceKey
      ⟨connection deviceId true none queue waiters buffer, world, phase⟩ offer =
        ⟨connection deviceId true (some key) queue waiters buffer, world, .sendingProof⟩ := by
    rw [← sendProof_connection (some key)] at proves
    rw [offered, offers.derives]
    exact (congrArg (fun sent => match sent with
      | .error error => State.mk (connection deviceId true (some key) queue waiters buffer) world
          (Phase.failed error)
      | .ok _ => ⟨connection deviceId true (some key) queue waiters buffer, world, .sendingProof⟩)
        proves)
  rw [Tunnel.expect, if_neg (not_not.mpr offers.type)]
  rcases offering with rfl | rfl
  · exact goes
  · exact goes

/-- Nothing is sent without a socket. -/
theorem sendProof_closed (sessionKey : Option (List UInt8)) (bytes : List UInt8) :
    sendProof ciphers secrets deviceKey (connection deviceId false sessionKey queue waiters buffer)
      key ≠ .ok bytes := by
  intro sent
  obtain ⟨_, _, impossible⟩ := bind_eq_ok_iff.mp sent
  cases impossible

/-- Any other offer ends the handshake, and so does every offer without a socket. -/
theorem answer_of_not_offers (offering : phase.Offering)
    (opens : Returns (sendOffer ciphers secrets deviceKey (connection deviceId true none [] [] [])))
    (refused : socket = true → ∀ key, ¬ Offers ciphers secrets deviceKey deviceId offer key) :
    ∃ error, (answer ciphers secrets deviceKey
      ⟨connection deviceId socket none queue waiters buffer, world, phase⟩
        (Tunnel.expect offer msgTypeEcdh)).phase = .failed error := by
  have goes (type : offer.type = msgTypeEcdh) : ∃ error, (offered ciphers secrets deviceKey
      ⟨connection deviceId socket none queue waiters buffer, world, phase⟩ offer).phase =
        .failed error := by
    rw [offered]
    split
    · exact ⟨_, rfl⟩
    · rename_i key derives
      simp only
      split
      · exact ⟨_, rfl⟩
      · rename_i bytes proves
        cases socket with
        | true => exact absurd ⟨opens, type, derives, bytes, proves⟩ (refused rfl key)
        | false => exact absurd proves (sendProof_closed (some key) bytes)
  rw [Tunnel.expect]
  split
  · exact ⟨_, rfl⟩
  · rename_i type
    rcases offering with rfl | rfl
    · exact goes (not_not.mp type)
    · exact goes (not_not.mp type)

/-- A proof that holds completes the handshake. -/
theorem answer_of_proves (proving : phase.Proving) (proves : Proves ciphers deviceKey key proof) :
    answer ciphers secrets deviceKey
        ⟨connection deviceId socket (some key) queue waiters buffer, world, phase⟩
        (Tunnel.expect proof msgTypeVerify) =
      ⟨{ connection deviceId socket (some key) queue waiters buffer with keepaliveTimer := true },
        world, .established⟩ := by
  have goes : proved ciphers deviceKey
      ⟨connection deviceId socket (some key) queue waiters buffer, world, phase⟩ proof =
        ⟨{ connection deviceId socket (some key) queue waiters buffer with
          keepaliveTimer := true }, world, .established⟩ := by
    have checks : checkProof ciphers deviceKey
        (connection deviceId socket (some key) queue waiters buffer).sessionKey proof = .ok () :=
      proves.checks
    rw [proved, checks]
  rw [Tunnel.expect, if_neg (not_not.mpr proves.type)]
  rcases proving with rfl | rfl
  · exact goes
  · exact goes

theorem answer_of_not_proves (proving : phase.Proving)
    (refused : ¬ Proves ciphers deviceKey key proof) :
    ∃ error, (answer ciphers secrets deviceKey
      ⟨connection deviceId socket (some key) queue waiters buffer, world, phase⟩
        (Tunnel.expect proof msgTypeVerify)).phase = .failed error := by
  have goes (type : proof.type = msgTypeVerify) : ∃ error, (proved ciphers deviceKey
      ⟨connection deviceId socket (some key) queue waiters buffer, world, phase⟩ proof).phase =
        .failed error := by
    rw [proved]
    split
    · exact ⟨_, rfl⟩
    · rename_i checks
      exact absurd ⟨type, checks⟩ refused
  rw [Tunnel.expect]
  split
  · exact ⟨_, rfl⟩
  · rename_i type
    rcases proving with rfl | rfl
    · exact goes (not_not.mp type)
    · exact goes (not_not.mp type)

end

/-! ## What a callback does -/

section

variable (ciphers : Ciphers) (secrets : Secrets) (deviceKey : List UInt8) (deviceId : String)
variable (parseJson : List UInt8 → Except String Json)
variable {World : Type} (listener : World → Json → Except String World)

/-- Frames reach the listener one after the other. -/
def hearAll (sessionKey : Option (List UInt8)) (world : World) (frames : List Frame) :
    Except String World :=
  frames.foldlM (hear ciphers.aesCbcDecrypt parseJson listener sessionKey) world

theorem hearAll_append (sessionKey : Option (List UInt8)) (world : World)
    (frames later : List Frame) :
    hearAll ciphers parseJson listener sessionKey world (frames ++ later) =
      hearAll ciphers parseJson listener sessionKey world frames >>= fun world =>
        hearAll ciphers parseJson listener sessionKey world later :=
  List.foldlM_append

/-- Without a key nothing is heard. -/
theorem hearAll_none (world : World) (frames : List Frame) :
    hearAll ciphers parseJson listener none world frames = .ok world := by
  induction frames with
  | nil => rfl
  | cons frame frames induction => exact induction

variable {sessionKey : Option (List UInt8)} (queue : List Frame) (waiters : List ℕ)
  {buffer chunk : List UInt8} {frames : List Frame} {world world' : World} (phase : Phase)
  {ending : Except String (List UInt8)}

/-- The reader leaves these bytes unless what follows can never be a frame. -/
def Leaves (ending : Except String (List UInt8)) (left : List UInt8) : Prop :=
  ∀ rest, ending = .ok rest → left = rest

/-- A chunk whose frames are heard may bring the frame that `handshake` waits for.  Bytes that can
never be a frame cost the tunnel its socket first. -/
theorem onChunk_of_heard (splits : Splits parseFrame (buffer ++ chunk) frames ending)
    (heard : hearAll ciphers parseJson listener sessionKey world frames = .ok world') :
    ∃ left, Leaves ending left ∧ onChunk ciphers secrets deviceKey parseJson listener
        ⟨connection deviceId true sessionKey queue waiters buffer, world, phase⟩ chunk =
      let after : State World := ⟨connection deviceId ending.isOk sessionKey
        (queue ++ (own sessionKey frames).drop waiters.length)
        (waiters.drop (own sessionKey frames).length) left, world', phase⟩
      match firstHanded waiters (own sessionKey frames) with
      | none => after
      | some (expected, frame) =>
          answer ciphers secrets deviceKey after (Tunnel.expect frame expected) := by
  obtain ⟨effects, given, handedOver⟩ := handOver_of_heard ciphers.aesCbcDecrypt parseJson listener
    deviceId queue waiters buffer heard
  obtain ⟨left, effects', leaves, given', returned⟩ : ∃ left effects', Leaves ending left ∧
      effects'.findSome? handed = firstHanded waiters (own sessionKey frames) ∧
      (connection deviceId true sessionKey queue waiters buffer).onData ciphers.aesCbcDecrypt
        parseJson listener world chunk = .ok (connection deviceId ending.isOk sessionKey
          (queue ++ (own sessionKey frames).drop waiters.length)
          (waiters.drop (own sessionKey frames).length) left, world', effects') := by
    rw [Tunnel.onData, ← Tunnel.outcome_deliverLoop]
    change ∃ left effects', _ ∧ _ ∧
      (Tunnel.deliverLoop _ _ _ (buffer ++ chunk) _ _).outcome = _
    cases ending with
    | ok rest =>
        refine ⟨rest, effects, fun _ same => Except.ok.inj same, given, ?_⟩
        rw [Tunnel.deliverLoop_of_waits _ _ _ splits handedOver]
        rfl
    | error error =>
        obtain ⟨left, delivers⟩ := Tunnel.deliverLoop_of_stops _ _ _ splits handedOver
        refine ⟨left, effects ++ [.error error, .destroyed], ?_, ?_, ?_⟩
        · intro rest same
          cases same
        · rw [List.findSome?_append, given]
          exact Option.or_none
        · rw [delivers]
          rfl
  refine ⟨left, leaves, ?_⟩
  rw [onChunk, if_neg (not_not.mpr (by rfl)), returned]
  simp only [given']

/-- Frames that nobody waits for are queued. -/
theorem onChunk_unwaited (splits : Splits parseFrame (buffer ++ chunk) frames ending)
    (heard : hearAll ciphers parseJson listener sessionKey world frames = .ok world') :
    ∃ left, Leaves ending left ∧ onChunk ciphers secrets deviceKey parseJson listener
        ⟨connection deviceId true sessionKey queue [] buffer, world, phase⟩ chunk =
      ⟨connection deviceId ending.isOk sessionKey (queue ++ own sessionKey frames) [] left, world',
        phase⟩ := by
  obtain ⟨left, leaves, after⟩ := onChunk_of_heard ciphers secrets deviceKey deviceId parseJson
    listener queue [] phase splits heard
  refine ⟨left, leaves, ?_⟩
  rw [after, List.drop_nil, List.length_nil, List.drop_zero]
  rfl

/-- The first frame that is not for the session goes to the caller of `nextFrame` that waits. -/
theorem onChunk_waited (splits : Splits parseFrame (buffer ++ chunk) frames ending)
    (heard : hearAll ciphers parseJson listener sessionKey world frames = .ok world')
    {frame : Frame} {rest : List Frame} (mine : own sessionKey frames = frame :: rest)
    (expected : ℕ) :
    ∃ left, Leaves ending left ∧ onChunk ciphers secrets deviceKey parseJson listener
        ⟨connection deviceId true sessionKey queue [expected] buffer, world, phase⟩ chunk =
      answer ciphers secrets deviceKey
        ⟨connection deviceId ending.isOk sessionKey (queue ++ rest) [] left, world', phase⟩
        (Tunnel.expect frame expected) := by
  obtain ⟨left, leaves, after⟩ := onChunk_of_heard ciphers secrets deviceKey deviceId parseJson
    listener queue [expected] phase splits heard
  have served : [expected].drop (frame :: rest).length = [] :=
    List.drop_of_length_le (Nat.succ_le_succ (Nat.zero_le _))
  refine ⟨left, leaves, ?_⟩
  rw [after, mine, served]
  rfl

/-- A chunk with a frame that is not heard brings the process down. -/
theorem onChunk_of_unheard (splits : Splits parseFrame (buffer ++ chunk) frames ending)
    {thrown : String}
    (unheard : hearAll ciphers parseJson listener sessionKey world frames = .error thrown) :
    onChunk ciphers secrets deviceKey parseJson listener
        ⟨connection deviceId true sessionKey queue waiters buffer, world, phase⟩ chunk =
      ⟨connection deviceId true sessionKey queue waiters buffer, world, .crashed thrown⟩ := by
  have handedOver := handOver_of_unheard ciphers.aesCbcDecrypt parseJson listener
    deviceId queue waiters buffer unheard
  have throws : (connection deviceId true sessionKey queue waiters buffer).onData
      ciphers.aesCbcDecrypt parseJson listener world chunk = .error thrown := by
    obtain ⟨_, _, -, -, delivers⟩ := Tunnel.deliverLoop_of_throws _ _ _ splits handedOver
    rw [Tunnel.onData, ← Tunnel.outcome_deliverLoop]
    change (Tunnel.deliverLoop _ _ _ (buffer ++ chunk) _ _).outcome = _
    rw [delivers]
  rw [onChunk, if_neg (not_not.mpr (by rfl)), throws]

end

/-! ## Where a run stands -/

section

variable (ciphers : Ciphers) (secrets : Secrets) (deviceKey : List UInt8) (deviceId : String)
variable (parseJson : List UInt8 → Except String Json)
variable {World : Type} (listener : World → Json → Except String World) (world : World)

/-- The frames begin with an offer that leads to this session key and a proof of it. -/
def Prompt (frames : List Frame) (key : List UInt8) : Prop :=
  ∃ offer proof later, frames = offer :: proof :: later ∧
    Offers ciphers secrets deviceKey deviceId offer key ∧ Proves ciphers deviceKey key proof

/-- What the frames that have been handed over have done to a handshake that goes on, with its
socket or without, and the bytes that are left. -/
inductive Stage (socket : Bool) (buffer : List UInt8) : List Frame → State World → Prop
  | sendingOffer {earlier : List Frame} :
      Returns (sendOffer ciphers secrets deviceKey (connection deviceId true none [] [] [])) →
        Stage socket buffer earlier
          ⟨connection deviceId socket none earlier [] buffer, world, .sendingOffer⟩
  | awaitingOffer :
      Returns (sendOffer ciphers secrets deviceKey (connection deviceId true none [] [] [])) →
        Stage socket buffer []
          ⟨connection deviceId socket none [] [msgTypeEcdh] buffer, world, .awaitingOffer⟩
  | sendingProof {key : List UInt8} {offer : Frame} {queued dispatched : List Frame}
      {world' : World} : Offers ciphers secrets deviceKey deviceId offer key →
        hearAll ciphers parseJson listener (some key) world dispatched = .ok world' →
          Stage socket buffer (offer :: (queued ++ dispatched))
            ⟨connection deviceId socket (some key) (queued ++ own (some key) dispatched) [] buffer,
              world', .sendingProof⟩
  | awaitingProof {key : List UInt8} {offer : Frame} {sessions : List Frame} {world' : World} :
      Offers ciphers secrets deviceKey deviceId offer key → own (some key) sessions = [] →
        hearAll ciphers parseJson listener (some key) world sessions = .ok world' →
          Stage socket buffer (offer :: sessions)
            ⟨connection deviceId socket (some key) [] [msgTypeVerify] buffer, world',
              .awaitingProof⟩

/-- Why a handshake is over, in terms of all the frames and what ends them. -/
inductive Ended (frames : List Frame) (ending : Except String (List UInt8)) (state : State World) :
    Prop
  | established {offer proof : Frame} {sessions later : List Frame} {key : List UInt8}
      {world' : World} (phase : state.phase = .established)
      (opened : state.tunnel.sessionKey = some key)
      (parts : frames = offer :: (sessions ++ proof :: later))
      (offers : Offers ciphers secrets deviceKey deviceId offer key)
      (silent : own (some key) sessions = [])
      (heard : hearAll ciphers parseJson listener (some key) world sessions = .ok world')
      (proves : Proves ciphers deviceKey key proof)
  | failed {error : String} (phase : state.phase = .failed error)
      (refused : ending.isOk = true → ∀ key, ¬ Prompt ciphers secrets deviceKey deviceId frames key)
  | crashed {offer : Frame} {before dispatched after : List Frame} {key : List UInt8}
      {thrown : String} (phase : state.phase = .crashed thrown)
      (parts : frames = offer :: (before ++ dispatched ++ after))
      (offers : Offers ciphers secrets deviceKey deviceId offer key)
      (throws : hearAll ciphers parseJson listener (some key) world dispatched = .error thrown)

/-- The frames that are still to come: none without a socket. -/
inductive Remains (ending : Except String (List UInt8)) (more : List UInt8) :
    Bool → List UInt8 → List Frame → Prop
  | connected {buffer : List UInt8} {later : List Frame} : parseFrame buffer = .ok none →
      Splits parseFrame (buffer ++ more) later ending → Remains ending more true buffer later
  | closed {buffer : List UInt8} : ending.isOk = false → Remains ending more false buffer []

/-- A handshake on a stream of frames of which these bytes are still to come. -/
def Follows (frames : List Frame) (ending : Except String (List UInt8)) (more : List UInt8)
    (state : State World) : Prop :=
  Ended ciphers secrets deviceKey deviceId parseJson listener world frames ending state ∨
    ∃ earlier later socket buffer, frames = earlier ++ later ∧
      Stage ciphers secrets deviceKey deviceId parseJson listener world socket buffer earlier state ∧
      Remains ending more socket buffer later

variable {ciphers secrets deviceKey deviceId parseJson listener world}
variable {frames later : List Frame} {ending : Except String (List UInt8)} {socket : Bool}
  {more buffer : List UInt8}

/-- A chunk takes the first of the frames that remain. -/
theorem remains_of_chunk {chunk : List UInt8}
    (splits : Splits parseFrame (buffer ++ (chunk ++ more)) later ending) :
    ∃ news rest ending', later = news ++ rest ∧ Splits parseFrame (buffer ++ chunk) news ending' ∧
      ∀ left, Leaves ending' left → Remains ending more ending'.isOk left rest := by
  rw [← List.append_assoc] at splits
  rcases splits.cut incremental_parseFrame with
    ⟨error, starts, rfl⟩ | ⟨news, rest, left, rfl, starts, goes⟩
  · exact ⟨later, [], .error error, (List.append_nil _).symm, starts, fun _ _ => .closed rfl⟩
  · refine ⟨news, rest, .ok left, rfl, starts, fun left' leaves => ?_⟩
    rw [leaves left rfl]
    exact .connected starts.waits goes

/-- The first frame of a stream settles whether there is a session key. -/
theorem follows_offer {phase : Phase} (offering : phase.Offering)
    (opens : Returns (sendOffer ciphers secrets deviceKey (connection deviceId true none [] [] [])))
    {offer : Frame} {queued : List Frame} (parts : frames = offer :: queued ++ later)
    (remains : Remains ending more socket buffer later) :
    Follows ciphers secrets deviceKey deviceId parseJson listener world frames ending more
      (answer ciphers secrets deviceKey
        ⟨connection deviceId socket none queued [] buffer, world, phase⟩
        (Tunnel.expect offer msgTypeEcdh)) := by
  by_cases offers : socket = true ∧ ∃ key, Offers ciphers secrets deviceKey deviceId offer key
  · obtain ⟨rfl, key, offers⟩ := offers
    have stage := @Stage.sendingProof ciphers secrets deviceKey deviceId parseJson World listener
      world true buffer key offer queued [] world offers rfl
    rw [answer_of_offers offering offers]
    rw [own, List.filter_nil, List.append_nil] at stage
    exact Or.inr ⟨_, later, true, buffer, parts, stage, remains⟩
  · rw [not_and, not_exists] at offers
    obtain ⟨error, fails⟩ := answer_of_not_offers offering opens offers
    refine Or.inl (.failed fails fun waits key => ?_)
    rintro ⟨_, _, _, same, accepted, -⟩
    rw [parts] at same
    injection same with first _
    cases remains with
    | connected _ _ => exact offers rfl key (first ▸ accepted)
    | closed stops => exact absurd (waits.symm.trans stops) (by decide)

theorem type_of_own_eq_nil {key : List UInt8} {sessions : List Frame}
    (silent : own (some key) sessions = []) : ∀ session ∈ sessions, session.type = msgTypeSession := by
  intro session member
  simpa using List.filter_eq_nil_iff.mp silent session member

/-- The first frame that is not a session frame settles the handshake. -/
theorem ended_proof {phase : Phase} (proving : phase.Proving) {offer proof : Frame}
    {sessions queue : List Frame} {waiters : List ℕ} {key : List UInt8}
    {world' world'' : World} (parts : frames = offer :: (sessions ++ proof :: later))
    (offers : Offers ciphers secrets deviceKey deviceId offer key)
    (silent : own (some key) sessions = [])
    (heard : hearAll ciphers parseJson listener (some key) world sessions = .ok world') :
    Ended ciphers secrets deviceKey deviceId parseJson listener world frames ending
      (answer ciphers secrets deviceKey
        ⟨connection deviceId socket (some key) queue waiters buffer, world'', phase⟩
        (Tunnel.expect proof msgTypeVerify)) := by
  by_cases proves : Proves ciphers deviceKey key proof
  · rw [answer_of_proves proving proves]
    exact .established rfl rfl parts offers silent heard proves
  · obtain ⟨error, fails⟩ := answer_of_not_proves proving proves
    refine .failed fails fun _ key' => ?_
    rintro ⟨offer', proof', later', same, offers', proves'⟩
    rw [parts] at same
    injection same with first rest
    rw [← first] at offers'
    rw [← offers.unique offers'] at proves'
    cases sessions with
    | nil =>
        injection rest with next _
        exact proves (next ▸ proves')
    | cons session sessions =>
        injection rest with next _
        rw [← next] at proves'
        have other := type_of_own_eq_nil silent session List.mem_cons_self
        exact absurd (other.symm.trans proves'.type) (by decide)

/-- Frames that are not all for the session have a first one that is not. -/
theorem exists_of_own_eq_cons {key : List UInt8} {news rest : List Frame} {proof : Frame}
    (some_own : own (some key) news = proof :: rest) :
    ∃ sessions after, news = sessions ++ proof :: after ∧ own (some key) sessions = [] := by
  obtain ⟨sessions, after, parts, others, -, -⟩ := List.filter_eq_cons_iff.mp some_own
  exact ⟨sessions, after, parts, List.filter_eq_nil_iff.mpr others⟩

/-- Nothing happens any more when the handshake is over. -/
theorem step_of_ended {state : State World}
    (ended : Ended ciphers secrets deviceKey deviceId parseJson listener world frames ending state)
    (event : Event) : step ciphers secrets deviceKey parseJson listener state event = state := by
  have finished : (∃ error, state.phase = .failed error) ∨ (∃ thrown, state.phase = .crashed thrown) ∨
      state.phase = .established := by
    cases ended with
    | established phase => exact Or.inr (Or.inr phase)
    | failed phase => exact Or.inl ⟨_, phase⟩
    | crashed phase => exact Or.inr (Or.inl ⟨_, phase⟩)
  rw [step.eq_def]
  rcases finished with ⟨error, phase⟩ | ⟨thrown, phase⟩ | phase
  · cases event with
    | written => simp only [phase]
    | data _ => simp only [phase]
  · cases event with
    | written => simp only [phase]
    | data _ => simp only [phase]
  · cases event with
    | written => simp only [phase]
    | data _ => simp only [phase]

theorem follows_written {state : State World}
    (follows : Follows ciphers secrets deviceKey deviceId parseJson listener world frames ending more
      state) :
    Follows ciphers secrets deviceKey deviceId parseJson listener world frames ending more
      (step ciphers secrets deviceKey parseJson listener state .written) := by
  rcases follows with ended | ⟨earlier, later, socket, buffer, parts, stage, remains⟩
  · rw [step_of_ended ended]
    exact Or.inl ended
  · cases stage with
    | sendingOffer opens =>
        cases earlier with
        | nil => exact Or.inr ⟨[], later, socket, buffer, parts, .awaitingOffer opens, remains⟩
        | cons offer queued => exact follows_offer (Or.inl rfl) opens parts remains
    | awaitingOffer opens =>
        exact Or.inr ⟨[], later, socket, buffer, parts, .awaitingOffer opens, remains⟩
    | @sendingProof key offer queued dispatched world' offers heard =>
        cases queued with
        | nil =>
            rw [List.nil_append] at parts ⊢
            cases mine : own (some key) dispatched with
            | nil =>
                exact Or.inr ⟨_, later, socket, buffer, parts, .awaitingProof offers mine heard,
                  remains⟩
            | cons proof rest =>
                obtain ⟨sessions, after, rfl, silent⟩ := exists_of_own_eq_cons mine
                rw [hearAll_append] at heard
                obtain ⟨_, heard, -⟩ := bind_eq_ok_iff.mp heard
                have whole : frames = offer :: (sessions ++ proof :: (after ++ later)) := by
                  simp [parts]
                exact Or.inl (ended_proof (Or.inl rfl) whole offers silent heard)
        | cons proof queued =>
            have whole : frames = offer :: ([] ++ proof :: (queued ++ dispatched ++ later)) := by
              simp [parts]
            exact Or.inl (ended_proof (Or.inl rfl) whole offers rfl rfl)
    | awaitingProof offers silent heard =>
        exact Or.inr ⟨_, later, socket, buffer, parts, .awaitingProof offers silent heard, remains⟩

theorem own_none (frames : List Frame) : own none frames = frames :=
  List.filter_eq_self.mpr fun _ _ => rfl

theorem own_append (sessionKey : Option (List UInt8)) (frames later : List Frame) :
    own sessionKey (frames ++ later) = own sessionKey frames ++ own sessionKey later :=
  List.filter_append _ _

/-- Without a socket nothing arrives. -/
theorem step_data_of_closed {earlier : List Frame} {state : State World} (chunk : List UInt8)
    (stage : Stage ciphers secrets deviceKey deviceId parseJson listener world false buffer earlier
      state) : step ciphers secrets deviceKey parseJson listener state (.data chunk) = state := by
  cases stage with
  | sendingOffer _ => rfl
  | awaitingOffer _ => rfl
  | sendingProof _ _ => rfl
  | awaitingProof _ _ _ => rfl

/-- While the proof is sent, the frames of a chunk are heard and those of the handshake queued. -/
theorem follows_sendingProof {key : List UInt8} {offer : Frame} {queued dispatched news : List Frame}
    {chunk : List UInt8} {world' : World} {ending' : Except String (List UInt8)}
    (starts : Splits parseFrame (buffer ++ chunk) news ending')
    (parts : frames = offer :: (queued ++ dispatched) ++ news ++ later)
    (remains : ∀ left, Leaves ending' left → Remains ending more ending'.isOk left later)
    (offers : Offers ciphers secrets deviceKey deviceId offer key)
    (heard : hearAll ciphers parseJson listener (some key) world dispatched = .ok world') :
    Follows ciphers secrets deviceKey deviceId parseJson listener world frames ending more
      (step ciphers secrets deviceKey parseJson listener
        ⟨connection deviceId true (some key) (queued ++ own (some key) dispatched) [] buffer, world',
          .sendingProof⟩ (.data chunk)) := by
  simp only [step]
  have all := hearAll_append ciphers parseJson listener (some key) world dispatched news
  rw [heard, ok_bind] at all
  cases further : hearAll ciphers parseJson listener (some key) world' news with
  | error thrown =>
      rw [onChunk_of_unheard _ _ _ _ _ _ _ _ _ starts further]
      have whole : frames = offer :: (queued ++ (dispatched ++ news) ++ later) := by
        simp [parts]
      exact Or.inl (.crashed rfl whole offers (all.trans further))
  | ok world'' =>
      obtain ⟨left, leaves, after⟩ := onChunk_unwaited ciphers secrets deviceKey deviceId
        parseJson listener (queued ++ own (some key) dispatched) .sendingProof starts further
      rw [after, List.append_assoc, ← own_append]
      refine Or.inr ⟨offer :: (queued ++ (dispatched ++ news)), later, _, left, ?_,
        .sendingProof offers (all.trans further), remains left leaves⟩
      simp [parts]

/-- The proof that is awaited is the first frame of a chunk that is not a session frame. -/
theorem follows_awaitingProof {key : List UInt8} {offer : Frame} {sessions news : List Frame}
    {chunk : List UInt8} {world' : World} {ending' : Except String (List UInt8)}
    (starts : Splits parseFrame (buffer ++ chunk) news ending')
    (parts : frames = offer :: sessions ++ news ++ later)
    (remains : ∀ left, Leaves ending' left → Remains ending more ending'.isOk left later)
    (offers : Offers ciphers secrets deviceKey deviceId offer key)
    (silent : own (some key) sessions = [])
    (heard : hearAll ciphers parseJson listener (some key) world sessions = .ok world') :
    Follows ciphers secrets deviceKey deviceId parseJson listener world frames ending more
      (step ciphers secrets deviceKey parseJson listener
        ⟨connection deviceId true (some key) [] [msgTypeVerify] buffer, world', .awaitingProof⟩
        (.data chunk)) := by
  simp only [step]
  have all := hearAll_append ciphers parseJson listener (some key) world sessions
  cases further : hearAll ciphers parseJson listener (some key) world' news with
  | error thrown =>
      rw [onChunk_of_unheard _ _ _ _ _ _ _ _ _ starts further]
      have whole : frames = offer :: ([] ++ (sessions ++ news) ++ later) := by
        simp [parts]
      refine Or.inl (.crashed rfl whole offers ?_)
      rw [all, heard, ok_bind, further]
  | ok world'' =>
      cases mine : own (some key) news with
      | nil =>
          obtain ⟨left, leaves, after⟩ := onChunk_of_heard ciphers secrets deviceKey deviceId
            parseJson listener [] [msgTypeVerify] .awaitingProof starts further
          rw [after, mine]
          refine Or.inr ⟨offer :: (sessions ++ news), later, _, left, parts,
            .awaitingProof offers ?_ ?_, remains left leaves⟩
          · rw [own_append, silent, mine]
            rfl
          · rw [all, heard, ok_bind, further]
      | cons proof rest =>
          obtain ⟨left, leaves, after⟩ := onChunk_waited ciphers secrets deviceKey deviceId
            parseJson listener [] .awaitingProof starts further mine msgTypeVerify
          rw [after]
          obtain ⟨before, after, rfl, quiet⟩ := exists_of_own_eq_cons mine
          have silent' : own (some key) (sessions ++ before) = [] := by
            rw [own_append, silent, quiet]
            rfl
          rw [hearAll_append] at further
          obtain ⟨between, heard', -⟩ := bind_eq_ok_iff.mp further
          have whole : frames = offer :: (sessions ++ before ++ proof :: (after ++ later)) := by
            simp [parts]
          have heard'' := all before
          rw [heard, ok_bind, heard'] at heard''
          exact Or.inl (ended_proof (Or.inr rfl) whole offers silent' heard'')

theorem follows_data {state : State World} {chunk : List UInt8}
    (follows : Follows ciphers secrets deviceKey deviceId parseJson listener world frames ending
      (chunk ++ more) state) :
    Follows ciphers secrets deviceKey deviceId parseJson listener world frames ending more
      (step ciphers secrets deviceKey parseJson listener state (.data chunk)) := by
  rcases follows with ended | ⟨earlier, later, socket, buffer, parts, stage, remains⟩
  · rw [step_of_ended ended]
    exact Or.inl ended
  · cases remains with
    | closed stops =>
        rw [step_data_of_closed chunk stage]
        exact Or.inr ⟨earlier, [], false, buffer, parts, stage, .closed stops⟩
    | connected _ splits =>
        obtain ⟨news, later, ending', rfl, starts, remains⟩ := remains_of_chunk splits
        rw [← List.append_assoc] at parts
        cases stage with
        | sendingOffer opens =>
            obtain ⟨left, leaves, after⟩ := onChunk_unwaited ciphers secrets deviceKey deviceId
              parseJson listener earlier .sendingOffer starts (hearAll_none _ _ _ world news)
            simp only [step]
            rw [after, own_none]
            exact Or.inr ⟨earlier ++ news, later, _, left, parts, .sendingOffer opens,
              remains left leaves⟩
        | awaitingOffer opens =>
            simp only [step]
            have heard := hearAll_none ciphers parseJson listener world news
            cases news with
            | nil =>
                obtain ⟨left, leaves, after⟩ := onChunk_of_heard ciphers secrets deviceKey deviceId
                  parseJson listener [] [msgTypeEcdh] .awaitingOffer starts heard
                rw [after]
                exact Or.inr ⟨[], later, _, left, parts, .awaitingOffer opens, remains left leaves⟩
            | cons offer queued =>
                obtain ⟨left, leaves, after⟩ := onChunk_waited ciphers secrets deviceKey deviceId
                  parseJson listener [] .awaitingOffer starts heard (own_none _) msgTypeEcdh
                rw [after]
                exact follows_offer (Or.inr rfl) opens parts (remains left leaves)
        | sendingProof offers heard =>
            exact follows_sendingProof starts parts remains offers heard
        | awaitingProof offers silent heard =>
            exact follows_awaitingProof starts parts remains offers silent heard

/-- Every run stands where its frames have brought it. -/
theorem follows_run (schedule : List Event) {state : State World}
    (follows : Follows ciphers secrets deviceKey deviceId parseJson listener world frames ending
      (delivered schedule) state) :
    Follows ciphers secrets deviceKey deviceId parseJson listener world frames ending []
      (schedule.foldl (step ciphers secrets deviceKey parseJson listener) state) := by
  induction schedule generalizing state with
  | nil => exact follows
  | cons event schedule induction =>
      rw [List.foldl_cons]
      cases event with
      | written => exact induction (follows_written follows)
      | data chunk => exact induction (follows_data follows)

theorem follows_start {data : List UInt8} (splits : Splits parseFrame data frames ending) :
    Follows ciphers secrets deviceKey deviceId parseJson listener world frames ending data
      (start ciphers secrets deviceKey deviceId world) := by
  cases opens : sendOffer ciphers secrets deviceKey (connection deviceId true none [] [] []) with
  | error error =>
      rw [start, opens]
      refine Or.inl (.failed rfl fun _ key => ?_)
      rintro ⟨_, _, _, -, offers, -⟩
      obtain ⟨bytes, sent⟩ := offers.opens
      exact nomatch opens.symm.trans sent
  | ok bytes =>
      rw [start, opens]
      exact Or.inr ⟨[], frames, true, [], rfl, .sendingOffer ⟨bytes, opens⟩, .connected rfl splits⟩

/-! ## How a run ends -/

/-- When no write is under way and everything has arrived, a handshake that goes on waits for a frame
that is not there. -/
theorem not_prompt_of_stage {state : State World}
    (stage : Stage ciphers secrets deviceKey deviceId parseJson listener world socket buffer frames
      state) (sent : ¬ state.phase.Sends) (key : List UInt8) :
    ¬ Prompt ciphers secrets deviceKey deviceId frames key := by
  rintro ⟨offer', proof, later, parts, -, proves⟩
  cases stage with
  | sendingOffer _ => exact sent trivial
  | awaitingOffer _ => cases parts
  | sendingProof _ _ => exact sent trivial
  | @awaitingProof _ offer sessions _ _ silent _ =>
      injection parts with _ rest
      have other := type_of_own_eq_nil silent proof (rest ▸ List.mem_cons_self)
      exact absurd (other.symm.trans proves.type) (by decide)

/-- A run on a stream of frames when no write is under way. -/
theorem ended_of_run {data : List UInt8} (splits : Splits parseFrame data frames ending)
    {schedule : List Event} (arrives : delivered schedule = data) {state : State World}
    (ran : schedule.foldl (step ciphers secrets deviceKey parseJson listener)
      (start ciphers secrets deviceKey deviceId world) = state) (sent : ¬ state.phase.Sends) :
    Ended ciphers secrets deviceKey deviceId parseJson listener world frames ending state ∨
      (state.phase ≠ .established ∧
        ∀ key, ¬ Prompt ciphers secrets deviceKey deviceId frames key) := by
  have starts : Follows ciphers secrets deviceKey deviceId parseJson listener world frames ending
      (delivered schedule) (start ciphers secrets deviceKey deviceId world) :=
    arrives ▸ follows_start splits
  have follows := follows_run schedule starts
  rw [ran] at follows
  rcases follows with ended | ⟨earlier, later, socket, buffer, parts, stage, remains⟩
  · exact Or.inl ended
  · have nothing : later = [] := by
      cases remains with
      | closed _ => rfl
      | connected waits goes =>
          rw [List.append_nil] at goes
          exact (goes.unique (.wait waits)).1
    rw [nothing, List.append_nil] at parts
    rw [parts]
    refine Or.inr ⟨?_, not_prompt_of_stage stage sent⟩
    cases stage with
    | sendingOffer _ => nofun
    | awaitingOffer _ => nofun
    | sendingProof _ _ => nofun
    | awaitingProof _ _ _ => nofun

/-- The handshake has completed with this session key. -/
structure Completed (state : State World) (key : List UInt8) : Prop where
  phase : state.phase = .established
  opened : state.tunnel.sessionKey = some key

/-- No frame after the proof disturbs the handshake, whichever of them come before it goes on. -/
def Undisturbed (ciphers : Ciphers) (parseJson : List UInt8 → Except String Json)
    (listener : World → Json → Except String World) (world : World) (key : List UInt8)
    (later : List Frame) : Prop :=
  ∀ suffix, suffix <:+ later → Returns (hearAll ciphers parseJson listener (some key) world suffix)

theorem not_returns_append {key : List UInt8} {frames later : List Frame} {world : World}
    {thrown : String}
    (throws : hearAll ciphers parseJson listener (some key) world frames = .error thrown) :
    ¬ Returns (hearAll ciphers parseJson listener (some key) world (frames ++ later)) := by
  rw [hearAll_append, throws]
  exact not_returns_error thrown

/-- Frames behind the proof that are undisturbed let no callback throw. -/
theorem not_throws_of_undisturbed {key : List UInt8} {proof : Frame}
    {later before dispatched after : List Frame} {thrown : String}
    (verifies : proof.type = msgTypeVerify)
    (quiet : Undisturbed ciphers parseJson listener world key later)
    (parts : proof :: later = before ++ dispatched ++ after) :
    hearAll ciphers parseJson listener (some key) world dispatched ≠ .error thrown := by
  intro throws
  cases before with
  | nil =>
      cases dispatched with
      | nil => cases throws
      | cons frame dispatched =>
          injection parts with same rest
          have silent : hear ciphers.aesCbcDecrypt parseJson listener (some key) world proof =
              .ok world := hear_of_mine _ _ _ (Or.inr (by rw [verifies]; decide))
          have further : hearAll ciphers parseJson listener (some key) world dispatched =
              .error thrown := by
            rwa [hearAll, List.foldlM_cons, ← same, silent, ok_bind] at throws
          exact not_returns_append further (rest ▸ quiet later (List.suffix_refl _))
  | cons frame before =>
      injection parts with _ rest
      have suffix : dispatched ++ after <:+ later :=
        ⟨before, by rw [rest]; exact (List.append_assoc _ _ _).symm⟩
      exact not_returns_append throws (quiet _ suffix)

/-- A prompt proof completes the handshake unless what comes behind it disturbs it. -/
theorem completed_of_prompt {data : List UInt8} (splits : Splits parseFrame data frames ending)
    (waits : ending.isOk = true) {schedule : List Event} (arrives : delivered schedule = data)
    {state : State World} (ran : schedule.foldl (step ciphers secrets deviceKey parseJson listener)
      (start ciphers secrets deviceKey deviceId world) = state) (sent : ¬ state.phase.Sends)
    {offer proof : Frame} {key : List UInt8} (parts : frames = offer :: proof :: later)
    (offers : Offers ciphers secrets deviceKey deviceId offer key)
    (proves : Proves ciphers deviceKey key proof)
    (quiet : Undisturbed ciphers parseJson listener world key later) : Completed state key := by
  have prompt : Prompt ciphers secrets deviceKey deviceId frames key :=
    ⟨offer, proof, later, parts, offers, proves⟩
  rcases ended_of_run splits arrives ran sent with ended | ⟨-, refused⟩
  · cases ended with
    | established phase opened parts' offers' _ _ _ =>
        injection parts.symm.trans parts' with same _
        rw [← same] at offers'
        cases offers.unique offers'
        exact ⟨phase, opened⟩
    | failed _ refused => exact absurd prompt (refused waits key)
    | crashed _ parts' offers' throws =>
        injection parts.symm.trans parts' with same rest
        rw [← same] at offers'
        cases offers.unique offers'
        exact absurd throws (not_throws_of_undisturbed proves.type quiet rest)
  · exact absurd prompt (refused key)

/-- A handshake completes only with a proof that no frame but session frames comes before. -/
theorem exists_of_completed {data : List UInt8} (splits : Splits parseFrame data frames ending)
    {schedule : List Event} (arrives : delivered schedule = data) {state : State World}
    (ran : schedule.foldl (step ciphers secrets deviceKey parseJson listener)
      (start ciphers secrets deviceKey deviceId world) = state) {key : List UInt8}
    (completed : Completed state key) :
    ∃ offer sessions proof later, frames = offer :: (sessions ++ proof :: later) ∧
      Offers ciphers secrets deviceKey deviceId offer key ∧ own (some key) sessions = [] ∧
      Returns (hearAll ciphers parseJson listener (some key) world sessions) ∧
      Proves ciphers deviceKey key proof := by
  have sent : ¬ state.phase.Sends := by
    rw [completed.phase]
    exact id
  rcases ended_of_run splits arrives ran sent with ended | ⟨goes, -⟩
  · cases ended with
    | established _ opened parts offers silent heard proves =>
        cases opened.symm.trans completed.opened
        exact ⟨_, _, _, _, parts, offers, silent, ⟨_, heard⟩, proves⟩
    | failed phase _ => exact nomatch completed.phase.symm.trans phase
    | crashed phase _ _ _ => exact nomatch completed.phase.symm.trans phase
  · exact absurd completed.phase goes

/-! ## Schedules -/

theorem phase_offered (state : State World) (offer : Frame) :
    (offered ciphers secrets deviceKey state offer).phase = .sendingProof ∨
      ¬ (offered ciphers secrets deviceKey state offer).phase.Sends := by
  rw [offered]
  split
  · exact Or.inr id
  · simp only
    split
    · exact Or.inr id
    · exact Or.inl rfl

theorem not_sends_proved (state : State World) (proof : Frame) :
    ¬ (proved ciphers deviceKey state proof).phase.Sends := by
  rw [proved]
  split
  · exact id
  · exact id

/-- A write that is done may be followed by that of the proof. -/
theorem phase_written (state : State World) :
    (step ciphers secrets deviceKey parseJson listener state .written).phase = .sendingProof ∨
      ¬ (step ciphers secrets deviceKey parseJson listener state .written).phase.Sends := by
  obtain ⟨tunnel, world, phase⟩ := state
  cases phase with
  | sendingOffer =>
      simp only [step, ask]
      split
      · exact Or.inr id
      · rename_i frame _
        cases frame with
        | error error => exact Or.inr id
        | ok frame => exact phase_offered _ _
  | sendingProof =>
      simp only [step, ask]
      split
      · exact Or.inr id
      · rename_i frame _
        cases frame with
        | error error => exact Or.inr id
        | ok frame => exact Or.inr (not_sends_proved _ _)
  | _ => exact Or.inr id

variable (parseJson listener) in
/-- After the proof nothing more is written. -/
theorem not_sends_written {state : State World}
    (sending : state.phase = .sendingProof ∨ ¬ state.phase.Sends) :
    ¬ (step ciphers secrets deviceKey parseJson listener state .written).phase.Sends := by
  obtain ⟨tunnel, world, phase⟩ := state
  cases phase with
  | sendingOffer => exact absurd trivial (sending.resolve_left nofun)
  | sendingProof =>
      simp only [step, ask]
      split
      · exact id
      · rename_i frame _
        cases frame with
        | error error => exact id
        | ok frame => exact not_sends_proved _ _
  | _ => exact id

/-- Any bytes can arrive with both writes done. -/
theorem exists_sent (data : List UInt8) :
    ∃ schedule, delivered schedule = data ∧
      ¬ (schedule.foldl (step ciphers secrets deviceKey parseJson listener)
        (start ciphers secrets deviceKey deviceId world)).phase.Sends := by
  refine ⟨[.data data, .written, .written], by simp [delivered], ?_⟩
  exact not_sends_written parseJson listener (phase_written _)

theorem start_of_offers {offer : Frame} {key : List UInt8}
    (offers : Offers ciphers secrets deviceKey deviceId offer key) :
    step ciphers secrets deviceKey parseJson listener
        (start ciphers secrets deviceKey deviceId world) .written =
      ⟨connection deviceId true none [] [msgTypeEcdh] [], world, .awaitingOffer⟩ := by
  obtain ⟨bytes, opens⟩ := offers.opens
  rw [start, opens]
  rfl

variable (parseJson listener world) in
/-- The offer and what the hub sends with it arrive in one chunk. -/
theorem run_offer {offer : Frame} {queued : List Frame} {key chunk : List UInt8}
    (offers : Offers ciphers secrets deviceKey deviceId offer key)
    (splits : Splits parseFrame chunk (offer :: queued) (.ok [])) :
    [Event.written, .data chunk].foldl (step ciphers secrets deviceKey parseJson listener)
        (start ciphers secrets deviceKey deviceId world) =
      ⟨connection deviceId true (some key) queued [] [], world, .sendingProof⟩ := by
  obtain ⟨left, leaves, after⟩ := @onChunk_waited ciphers secrets deviceKey deviceId parseJson _
    listener none [] [] chunk _ world world .awaitingOffer _ splits (hearAll_none _ _ _ world _)
      offer queued (own_none _) msgTypeEcdh
  rw [List.foldl_cons, start_of_offers offers, List.foldl_cons, List.foldl_nil]
  simp only [step]
  rw [after, leaves [] rfl]
  exact answer_of_offers (Or.inr rfl) offers

/-- A proof behind session frames that are heard can complete the handshake. -/
theorem exists_completed {data : List UInt8} {offer proof : Frame} {sessions : List Frame}
    {key : List UInt8} {world' : World}
    (splits : Splits parseFrame data (offer :: (sessions ++ proof :: later)) ending)
    (offers : Offers ciphers secrets deviceKey deviceId offer key)
    (silent : own (some key) sessions = [])
    (heard : hearAll ciphers parseJson listener (some key) world sessions = .ok world')
    (proves : Proves ciphers deviceKey key proof) :
    ∃ schedule, delivered schedule = data ∧
      Completed (schedule.foldl (step ciphers secrets deviceKey parseJson listener)
        (start ciphers secrets deviceKey deviceId world)) key := by
  have whole : offer :: (sessions ++ proof :: later) = [offer] ++ (sessions ++ ([proof] ++ later)) :=
    rfl
  rw [whole] at splits
  obtain ⟨first, _, rfl, splits₁, splits⟩ := splits.divide incremental_parseFrame delimited_parseFrame
  obtain ⟨second, _, rfl, splits₂, splits⟩ :=
    splits.divide incremental_parseFrame delimited_parseFrame
  obtain ⟨third, fourth, rfl, splits₃, -⟩ :=
    splits.divide incremental_parseFrame delimited_parseFrame
  have mine : (some key : Option (List UInt8)) = none ∨ proof.type ≠ msgTypeSession :=
    Or.inr (by rw [proves.type]; decide)
  have unheard : hearAll ciphers parseJson listener (some key) world' [proof] = .ok world' := by
    rw [hearAll, List.foldlM_cons, hear_of_mine _ _ _ mine]
    rfl
  have hears : step ciphers secrets deviceKey parseJson listener
      ⟨connection deviceId true (some key) [] [] [], world, .sendingProof⟩ (.data second) =
        ⟨connection deviceId true (some key) [] [] [], world', .sendingProof⟩ := by
    obtain ⟨left, leaves, after⟩ := @onChunk_unwaited ciphers secrets deviceKey deviceId parseJson _
      listener (some key) [] [] second _ world world' .sendingProof _ splits₂ heard
    simp only [step]
    rw [after, leaves [] rfl, silent]
    rfl
  have asks : step ciphers secrets deviceKey parseJson listener
      ⟨connection deviceId true (some key) [] [] [], world', .sendingProof⟩ .written =
        ⟨connection deviceId true (some key) [] [msgTypeVerify] [], world', .awaitingProof⟩ := rfl
  have completes : Completed (step ciphers secrets deviceKey parseJson listener
      ⟨connection deviceId true (some key) [] [msgTypeVerify] [], world', .awaitingProof⟩
      (.data third)) key := by
    obtain ⟨left, leaves, after⟩ := @onChunk_waited ciphers secrets deviceKey deviceId parseJson _
      listener (some key) [] [] third _ world' world' .awaitingProof _ splits₃ unheard proof []
        (own_of_mine mine) msgTypeVerify
    simp only [step]
    rw [after, answer_of_proves (Or.inr rfl) proves]
    exact ⟨rfl, rfl⟩
  have stays : ∀ state : State World, Completed state key →
      Completed (step ciphers secrets deviceKey parseJson listener state (.data fourth)) key := by
    intro state completed
    rw [step, completed.phase]
    exact completed
  refine ⟨[.written, .data first] ++ [.data second, .written, .data third, .data fourth], ?_, ?_⟩
  · simp [delivered]
  · rw [List.foldl_append, run_offer parseJson listener world offers splits₁, List.foldl_cons, hears,
      List.foldl_cons, asks, List.foldl_cons, List.foldl_cons, List.foldl_nil]
    exact stays _ completes

/-- Frames that cannot be heard can bring the process down after any others. -/
theorem exists_crashed {data : List UInt8} {offer : Frame} {queued dispatched : List Frame}
    {key : List UInt8} {thrown : String}
    (splits : Splits parseFrame data (offer :: queued ++ dispatched) ending)
    (offers : Offers ciphers secrets deviceKey deviceId offer key)
    (throws : hearAll ciphers parseJson listener (some key) world dispatched = .error thrown) :
    ∃ schedule, delivered schedule = data ∧
      (schedule.foldl (step ciphers secrets deviceKey parseJson listener)
        (start ciphers secrets deviceKey deviceId world)).phase = .crashed thrown := by
  obtain ⟨first, second, rfl, splits₁, splits₂⟩ :=
    splits.divide incremental_parseFrame delimited_parseFrame
  refine ⟨[.written, .data first] ++ [.data second], ?_, ?_⟩
  · simp [delivered]
  · rw [List.foldl_append, run_offer parseJson listener world offers splits₁, List.foldl_cons,
      List.foldl_nil]
    simp only [step]
    rw [@onChunk_of_unheard ciphers secrets deviceKey deviceId parseJson _ listener (some key) queued
      [] [] second _ world .sendingProof _ splits₂ _ throws]

/-- Bytes that can never be a frame can close the socket before the proof is sent. -/
theorem exists_failed {data : List UInt8} {offer : Frame} {rest : List Frame} {key : List UInt8}
    (splits : Splits parseFrame data (offer :: rest) ending) (stops : ending.isOk = false)
    (offers : Offers ciphers secrets deviceKey deviceId offer key) :
    ∃ schedule, delivered schedule = data ∧ ∃ error,
      (schedule.foldl (step ciphers secrets deviceKey parseJson listener)
        (start ciphers secrets deviceKey deviceId world)).phase = .failed error := by
  obtain ⟨left, -, after⟩ := @onChunk_waited ciphers secrets deviceKey deviceId parseJson _
    listener none [] [] data _ world world .awaitingOffer _ splits (hearAll_none _ _ _ world _)
      offer rest (own_none _) msgTypeEcdh
  refine ⟨[.written, .data data], by simp [delivered], ?_⟩
  rw [List.foldl_cons, start_of_offers offers, List.foldl_cons, List.foldl_nil]
  simp only [step]
  rw [after, stops]
  exact answer_of_not_offers (Or.inr rfl) offers.opens nofun

end

end Handshake
end Port
end AqaraLanLink
