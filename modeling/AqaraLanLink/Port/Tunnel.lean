import AqaraLanLink.Json
import AqaraLanLink.Port.Crypto

/-!
# The port's tunnel

`src/protocol/tunnel.js` after the TCP connection is up: requests and keepalives going out, frames
coming in, and what closes a tunnel.  Promises and event listeners become effects, in the order in
which the code reaches them.  A call that throws gives the error instead.
-/

namespace AqaraLanLink
namespace Port

/-- What the tunnel knows about a request that has not been answered. -/
structure Waiting where
  /-- Its sequence number, the key of the pending map. -/
  seq : ℕ
  /-- Its command, which the timeout message names. -/
  cmd : String
  deriving DecidableEq, Repr

/-- The fields of `AqaraTunnel` that the session uses. -/
structure Tunnel where
  /-- The hub's device id. -/
  deviceId : String
  /-- The session key, once the handshake has derived it. -/
  sessionKey : Option (List UInt8)
  /-- Whether `this.socket` is set; `close` drops it. -/
  hasSocket : Bool
  /-- Whether the socket can still be written to. -/
  writable : Bool
  /-- Bytes that are not a complete frame yet. -/
  buffer : List UInt8
  /-- Handshake frames nobody has asked for. -/
  frames : List Frame
  /-- The frame types that `nextFrame` callers wait for. -/
  frameWaiters : List ℕ
  /-- The requests that have not been answered, in the order in which they were sent. -/
  pending : List Waiting
  /-- The last sequence number used. -/
  seq : ℕ
  /-- Whether the keepalive timer runs. -/
  keepaliveTimer : Bool

/-- What a step of the tunnel does to the world outside it. -/
inductive Effect where
  /-- A frame is handed to the `nextFrame` caller that waits for this type. -/
  | handshake (expected : ℕ) (frame : Frame)
  /-- A frame is kept for a later `nextFrame` caller. -/
  | queued (frame : Frame)
  /-- A message is written to the socket. -/
  | sent (message : Json)
  /-- The request with this sequence number resolves. -/
  | resolved (seq : ℕ) (message : Json)
  /-- The request with this sequence number is rejected. -/
  | rejected (seq : ℕ) (error : String)
  /-- A request is rejected before it has a sequence number. -/
  | refused (error : String)
  /-- `emit('message')`. -/
  | message (message : Json)
  /-- `emit('error')`. -/
  | error (error : String)
  /-- `emit('close')`. -/
  | closed
  /-- The socket is destroyed. -/
  | destroyed

namespace Tunnel

/-! ## Going out -/

/-- The envelope of every session message. -/
def envelope (seq : ℕ) (cmd : String) (data : Json) : Json :=
  .object [("seq", .number seq), ("type", .string "session"), ("cmd", .string cmd), ("data", data)]

/-- Settle one pending request, when it is still there. -/
def settle (tunnel : Tunnel) (seq : ℕ) (effect : Effect) : Tunnel × List Effect :=
  if tunnel.pending.any fun waiting => waiting.seq == seq then
    ({ tunnel with pending := tunnel.pending.filter fun waiting => waiting.seq != seq }, [effect])
  else (tunnel, [])

/-- `request`, up to the end of the event-loop turn in which it is called.  A frame that cannot be
written is settled by the `catch` within that turn. -/
def request (tunnel : Tunnel) (cmd : String) (data : Json) : Tunnel × List Effect :=
  match tunnel.sessionKey with
  | none => (tunnel, [.refused "The tunnel is not open"])
  | some _ =>
      let seq := tunnel.seq + 1
      let message := envelope seq cmd data
      let waiting := { tunnel with seq, pending := tunnel.pending ++ [⟨seq, cmd⟩] }
      if ¬ tunnel.hasSocket then waiting.settle seq (.rejected seq "The tunnel is closed")
      else if ¬ tunnel.writable then
        waiting.settle seq (.rejected seq "Cannot call write after a stream was destroyed")
      else (waiting, [.sent message])

/-- The payload of `read`; the device is the hub itself when none is named. -/
def readData (tunnel : Tunnel) (paths : List String) (deviceId : Option String) : Json :=
  .object [("did", .string (deviceId.getD tunnel.deviceId)), ("attrs", .array (paths.map .string))]

/-- The payload of `write`. -/
def writeData (tunnel : Tunnel) (values : List (String × Json)) (deviceId : Option String) : Json :=
  .object [("did", .string (deviceId.getD tunnel.deviceId)), ("attrs", .object values)]

def read (tunnel : Tunnel) (paths : List String) (deviceId : Option String) :
    Tunnel × List Effect :=
  tunnel.request "read" (tunnel.readData paths deviceId)

def write (tunnel : Tunnel) (values : List (String × Json)) (deviceId : Option String) :
    Tunnel × List Effect :=
  tunnel.request "write" (tunnel.writeData values deviceId)

/-- The keepalive timer fires. -/
def keepalive (tunnel : Tunnel) (now : ℕ) : Tunnel × List Effect :=
  let seq := tunnel.seq + 1
  let tunnel' := { tunnel with seq }
  if ¬ tunnel.hasSocket then (tunnel', [.error "The tunnel is closed"])
  else if ¬ tunnel.writable then
    (tunnel', [.error "Cannot call write after a stream was destroyed"])
  else (tunnel', [.sent (envelope seq "keepalive" (.object [("timestamp", .number now)]))])

/-- The write of a request's frame reports an error. -/
def sendFailed (tunnel : Tunnel) (seq : ℕ) (error : String) : Tunnel × List Effect :=
  tunnel.settle seq (.rejected seq error)

/-- The timer of a request fires; `clearTimeout` has stopped it when the request is not pending. -/
def timeout (tunnel : Tunnel) (seq : ℕ) : Tunnel × List Effect :=
  match tunnel.pending.find? fun waiting => waiting.seq == seq with
  | some waiting =>
      tunnel.settle seq
        (.rejected seq s!"The hub did not answer {waiting.cmd} within 10000ms")
  | none => (tunnel, [])

/-! ## Coming in -/

/-- The pending request that `this.pending.get(message.seq)` finds. -/
def waitingFor (tunnel : Tunnel) (seq : Option Json) : Option Waiting :=
  match seq with
  | some (.number value) => tunnel.pending.find? fun waiting => (waiting.seq : ℚ) == value
  | _ => none

/-- The part of `onFrame` after the message has been read. -/
def dispatch (tunnel : Tunnel) (message : Json) : Except String (Tunnel × Effect) :=
  match message with
  | .null => .error "Cannot read properties of null (reading 'seq')"
  | message =>
      match tunnel.waitingFor (message.get? "seq") with
      | some waiting =>
          .ok ({ tunnel with pending := tunnel.pending.filter fun other => other.seq != waiting.seq },
            .resolved waiting.seq message)
      | none => .ok (tunnel, .message message)

/-- A message is an answer when its `seq` is pending, and a push otherwise. -/
theorem dispatch_of_ne_null {tunnel : Tunnel} {message : Json} (present : message ≠ .null) :
    tunnel.dispatch message =
      match tunnel.waitingFor (message.get? "seq") with
      | some waiting =>
          .ok ({ tunnel with pending := tunnel.pending.filter fun other => other.seq != waiting.seq },
            .resolved waiting.seq message)
      | none => .ok (tunnel, .message message) := by
  cases message with
  | null => exact absurd rfl present
  | _ => rfl

section

variable (aesCbcDecrypt : List UInt8 → List UInt8 → Except String (List UInt8))
variable (parseJson : List UInt8 → Except String Json)

/-- `JSON.parse(aesCbcDecrypt(key, ciphertext).toString('utf8'))`. -/
def readMessage (key : List UInt8) (frame : Frame) : Except String Json := do
  parseJson (← aesCbcDecrypt key frame.ciphertext)

/-- The branch of `onFrame` for a handshake frame. -/
def onHandshakeFrame (tunnel : Tunnel) (frame : Frame) : Tunnel × Effect :=
  match tunnel.frameWaiters with
  | expected :: waiters => ({ tunnel with frameWaiters := waiters }, .handshake expected frame)
  | [] => ({ tunnel with frames := tunnel.frames ++ [frame] }, .queued frame)

/-- Hand one decoded frame to the handshake or to the session. -/
def onFrame (tunnel : Tunnel) (frame : Frame) : Except String (Tunnel × Effect) :=
  match tunnel.sessionKey with
  | none => .ok (tunnel.onHandshakeFrame frame)
  | some key =>
      if frame.type ≠ msgTypeSession then .ok (tunnel.onHandshakeFrame frame)
      else
        match readMessage aesCbcDecrypt parseJson key frame with
        | .error error => .ok (tunnel, .error s!"Could not read what the hub said: {error}")
        | .ok message => tunnel.dispatch message

theorem onFrame_of_handshake {tunnel : Tunnel} {frame : Frame}
    (handshake : tunnel.sessionKey = none ∨ frame.type ≠ msgTypeSession) :
    tunnel.onFrame aesCbcDecrypt parseJson frame = .ok (tunnel.onHandshakeFrame frame) := by
  rw [onFrame]
  split
  · rfl
  · rename_i opened
    rcases handshake with closed | other
    · exact nomatch closed.symm.trans opened
    · rw [if_pos other]

theorem onFrame_of_session {tunnel : Tunnel} {frame : Frame} {key : List UInt8}
    (opened : tunnel.sessionKey = some key) (session : frame.type = msgTypeSession) :
    tunnel.onFrame aesCbcDecrypt parseJson frame =
      match readMessage aesCbcDecrypt parseJson key frame with
      | .error error => .ok (tunnel, .error s!"Could not read what the hub said: {error}")
      | .ok message => tunnel.dispatch message := by
  rw [onFrame, opened]
  exact if_neg (not_not.mpr session)

/-- `expect`. -/
def expect (frame : Frame) (type : ℕ) : Except String Frame :=
  if frame.type ≠ type then .error s!"Expected frame 0x{hex type}, got 0x{hex frame.type}"
  else .ok frame

/-- `nextFrame`: what it throws or resolves with at once, or nothing when it has to wait. -/
def nextFrame (tunnel : Tunnel) (type : ℕ) : Tunnel × Option (Except String Frame) :=
  match tunnel.frames with
  | frame :: frames => ({ tunnel with frames }, some (expect frame type))
  | [] => ({ tunnel with frameWaiters := tunnel.frameWaiters ++ [type] }, none)

/-- `close`. -/
def close (tunnel : Tunnel) : Tunnel × List Effect :=
  ({ tunnel with keepaliveTimer := false, hasSocket := false, writable := false },
    if tunnel.hasSocket then [.destroyed] else [])

/-- The socket's `close` event. -/
def onClose (tunnel : Tunnel) : Tunnel × List Effect :=
  ({ tunnel with pending := [], keepaliveTimer := false, writable := false },
    (tunnel.pending.map fun waiting =>
      Effect.rejected waiting.seq "The hub closed the connection") ++ [.closed])

variable {World : Type} (listener : World → Json → Except String World)

/-- The `message` listener runs inside `emit`, so what it throws is thrown by `emit`. -/
def runListener (world : World) : Effect → Except String World
  | .message message => listener world message
  | _ => .ok world

/-- The loop of `onData`: take a frame off the buffer and hand it on, until the buffer holds no
complete frame or one that can never be right.  The buffer is `this.buffer`, which no frame
handler touches. -/
def onDataLoop (buffer : List UInt8) (tunnel : Tunnel) (world : World) :
    Except String (Tunnel × World × List Effect) :=
  match _parsed : parseFrame buffer with
  | .error error =>
      let (tunnel, effects) := { tunnel with buffer }.close
      .ok (tunnel, world, .error error :: effects)
  | .ok none => .ok ({ tunnel with buffer }, world, [])
  | .ok (some (frame, rest)) => do
      let (tunnel, effect) ← tunnel.onFrame aesCbcDecrypt parseJson frame
      let world ← runListener listener world effect
      let (tunnel, world, effects) ← onDataLoop rest tunnel world
      pure (tunnel, world, effect :: effects)
termination_by buffer.length
decreasing_by exact length_lt_of_parseFrame ‹_›

theorem onDataLoop_of_error {buffer : List UInt8} {error : String} (tunnel : Tunnel)
    (world : World) (parsed : parseFrame buffer = .error error) :
    onDataLoop aesCbcDecrypt parseJson listener buffer tunnel world =
      .ok ({ tunnel with buffer }.close.1, world,
        .error error :: { tunnel with buffer }.close.2) := by
  rw [onDataLoop]
  split <;> simp_all

theorem onDataLoop_of_none {buffer : List UInt8} (tunnel : Tunnel) (world : World)
    (parsed : parseFrame buffer = .ok none) :
    onDataLoop aesCbcDecrypt parseJson listener buffer tunnel world =
      .ok ({ tunnel with buffer }, world, []) := by
  rw [onDataLoop]
  split <;> simp_all

theorem onDataLoop_of_some {buffer rest : List UInt8} {frame : Frame} (tunnel : Tunnel)
    (world : World) (parsed : parseFrame buffer = .ok (some (frame, rest))) :
    onDataLoop aesCbcDecrypt parseJson listener buffer tunnel world = (do
      let (tunnel, effect) ← tunnel.onFrame aesCbcDecrypt parseJson frame
      let world ← runListener listener world effect
      let (tunnel, world, effects) ← onDataLoop aesCbcDecrypt parseJson listener rest tunnel world
      pure (tunnel, world, effect :: effects)) := by
  rw [onDataLoop]
  split <;> simp_all

/-- A chunk of bytes arrives from the socket. -/
def onData (tunnel : Tunnel) (world : World) (chunk : List UInt8) :
    Except String (Tunnel × World × List Effect) :=
  onDataLoop aesCbcDecrypt parseJson listener (tunnel.buffer ++ chunk) tunnel world

end

/-- An open tunnel to a hub. -/
def openTunnel : Tunnel where
  deviceId := "lumi.hub"
  sessionKey := some (List.replicate 16 7)
  hasSocket := true
  writable := true
  buffer := []
  frames := []
  frameWaiters := []
  pending := []
  seq := 0
  keepaliveTimer := true

end Tunnel
end Port
end AqaraLanLink
