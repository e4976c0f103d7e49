import AqaraLanLink.Library.Runs
import AqaraLanLink.Port.Reassembly

/-!
# What a tunnel holds on to

The unread bytes, the queue of handshake frames nobody has asked for and the callers of `nextFrame`
that wait for one, over whole runs of a tunnel.
-/

namespace AqaraLanLink
namespace Port
namespace Buffering

open Library

/-! ## The machine -/

/-- What happens to a tunnel. -/
inductive Label where
  /-- A chunk of bytes arrives from the socket. -/
  | data (chunk : List UInt8)
  /-- The handshake calls `nextFrame`. -/
  | nextFrame (type : ℕ)
  /-- The timer of a `nextFrame` caller fires, which rejects its promise. -/
  | quiet (caller : ℕ)
  /-- The handshake derives the session key. -/
  | opened (key : List UInt8)
  /-- Someone calls `request`. -/
  | request (cmd : String) (data : Json)
  /-- The keepalive timer fires. -/
  | keepalive (now : ℕ)
  /-- The write of a request's frame fails. -/
  | sendFailed (seq : ℕ) (error : String)
  /-- The timer of a request fires. -/
  | timeout (seq : ℕ)
  /-- Someone calls `close`. -/
  | close
  /-- The socket closes. -/
  | socketClose

/-- A tunnel, what listens to it, and the callers that wait. -/
structure State (World : Type) where
  /-- The tunnel. -/
  tunnel : Tunnel
  /-- What the `message` listener works on. -/
  world : World
  /-- For each waiter in `frameWaiters`, whether the promise it belongs to has been rejected. -/
  rejected : List Bool

section

variable (aesCbcDecrypt : List UInt8 → List UInt8 → Except String (List UInt8))
variable (parseJson : List UInt8 → Except String Json)
variable {World : Type} (listener : World → Json → Except String World)

/-- The loop of `onData` with what it leaves behind, also when it throws: the frames before the one
that throws have been handled, and what follows that one stays in the buffer.  What a listener has
done before it throws is not followed. -/
def afterLoop (buffer : List UInt8) (tunnel : Tunnel) (world : World) : Tunnel × World :=
  match _parsed : parseFrame buffer with
  | .error _ => ({ tunnel with buffer }.close.1, world)
  | .ok none => ({ tunnel with buffer }, world)
  | .ok (some (frame, rest)) =>
      match tunnel.handle aesCbcDecrypt parseJson listener world frame with
      | .error _ => ({ tunnel with buffer := rest }, world)
      | .ok (tunnel, world, _) => afterLoop rest tunnel world
termination_by buffer.length
decreasing_by exact length_lt_of_parseFrame ‹_›

theorem afterLoop_of_error {buffer : List UInt8} {error : String} (tunnel : Tunnel) (world : World)
    (parsed : parseFrame buffer = .error error) :
    afterLoop aesCbcDecrypt parseJson listener buffer tunnel world =
      ({ tunnel with buffer }.close.1, world) := by
  rw [afterLoop]
  split <;> simp_all

theorem afterLoop_of_none {buffer : List UInt8} (tunnel : Tunnel) (world : World)
    (parsed : parseFrame buffer = .ok none) :
    afterLoop aesCbcDecrypt parseJson listener buffer tunnel world =
      ({ tunnel with buffer }, world) := by
  rw [afterLoop]
  split <;> simp_all

theorem afterLoop_of_some {buffer rest : List UInt8} {frame : Frame} (tunnel : Tunnel)
    (world : World) (parsed : parseFrame buffer = .ok (some (frame, rest))) :
    afterLoop aesCbcDecrypt parseJson listener buffer tunnel world =
      match tunnel.handle aesCbcDecrypt parseJson listener world frame with
      | .error _ => ({ tunnel with buffer := rest }, world)
      | .ok (tunnel, world, _) =>
          afterLoop aesCbcDecrypt parseJson listener rest tunnel world := by
  rw [afterLoop]
  split <;> simp_all

/-- When `onData` returns, what it leaves behind is what it returns with. -/
theorem afterLoop_of_returns {buffer : List UInt8} {tunnel tunnel' : Tunnel} {world world' : World}
    {effects : List Effect}
    (returned : tunnel.onDataLoop aesCbcDecrypt parseJson listener buffer world =
      .ok (tunnel', world', effects)) :
    afterLoop aesCbcDecrypt parseJson listener buffer tunnel world = (tunnel', world') := by
  induction buffer using splitFrames.induct generalizing tunnel world effects with
  | case1 buffer error parsed =>
      rw [Tunnel.onDataLoop_of_error _ _ _ _ _ parsed] at returned
      cases returned
      exact afterLoop_of_error _ _ _ _ _ parsed
  | case2 buffer parsed =>
      rw [Tunnel.onDataLoop_of_none _ _ _ _ _ parsed] at returned
      cases returned
      exact afterLoop_of_none _ _ _ _ _ parsed
  | case3 buffer frame rest parsed induction =>
      rw [Tunnel.onDataLoop_eq_handle _ _ _ _ _ parsed] at returned
      obtain ⟨⟨next, world'', effect⟩, handled, later⟩ := bind_eq_ok_iff.mp returned
      obtain ⟨⟨_, _, others⟩, looped, done⟩ := bind_eq_ok_iff.mp later
      cases done
      rw [afterLoop_of_some _ _ _ _ _ parsed, handled]
      exact induction looped

/-- What can happen: a socket that has been destroyed emits no data, and a timer fires once. -/
def Possible (state : State World) : Label → Prop
  | .data _ => state.tunnel.hasSocket = true
  | .quiet caller => state.rejected[caller]? = some false
  | _ => True

/-- What the tunnel does about it. -/
def perform (state : State World) : Label → State World
  | .data chunk =>
      let (tunnel, world) := afterLoop aesCbcDecrypt parseJson listener
        (state.tunnel.buffer ++ chunk) state.tunnel state.world
      -- the waiters that were served are those at the front
      let served := state.tunnel.frameWaiters.length - tunnel.frameWaiters.length
      ⟨tunnel, world, state.rejected.drop served⟩
  | .nextFrame type =>
      match state.tunnel.nextFrame type with
      | (tunnel, some _) => { state with tunnel }
      | (tunnel, none) => { state with tunnel, rejected := state.rejected ++ [false] }
  | .quiet caller => { state with rejected := state.rejected.set caller true }
  | .opened key => { state with tunnel := { state.tunnel with sessionKey := some key } }
  | .request cmd data => { state with tunnel := (state.tunnel.request cmd data).1 }
  | .keepalive now => { state with tunnel := (state.tunnel.keepalive now).1 }
  | .sendFailed seq error => { state with tunnel := (state.tunnel.sendFailed seq error).1 }
  | .timeout seq => { state with tunnel := (state.tunnel.timeout seq).1 }
  | .close => { state with tunnel := state.tunnel.close.1 }
  | .socketClose => { state with tunnel := state.tunnel.onClose.1 }

/-- The tunnel over its life; it starts with nothing to hold on to. -/
def machine : Machine (State World) Label where
  initial state := state.tunnel.buffer = [] ∧ state.tunnel.frames = [] ∧
    state.tunnel.frameWaiters = [] ∧ state.rejected = []
  step state label next := Possible state label ∧
    next = perform aesCbcDecrypt parseJson listener state label

/-! ## What is bounded -/

/-- What the tunnel holds on to is bounded, with room for `limit` frames. -/
structure Bounded (limit : ℕ) (state : State World) : Prop where
  /-- The unread bytes are less than a frame, unless the tunnel has been closed. -/
  buffer : state.tunnel.hasSocket = true →
    state.tunnel.buffer.length < frameHeaderLen + maxFrameCtLen + frameTrailerLen
  /-- The frames that nobody has asked for. -/
  frames : state.tunnel.frames.length ≤ limit
  /-- Every waiter belongs to a promise that is still open. -/
  waiters : state.rejected = state.tunnel.frameWaiters.map fun _ => false

/-- The frames in a buffer that `onFrame` takes for the handshake. -/
def handshakeFrames (tunnel : Tunnel) (frames : List Frame) : List Frame :=
  frames.filter fun frame => tunnel.sessionKey.isNone || frame.type != msgTypeSession

/-- The hub sends at most `limit` handshake frames more than were asked for and no session frame that
says `null`, the `message` listener returns, and no caller of `nextFrame` waits until its timer
fires. -/
def Asked (limit : ℕ) (state : State World) : Label → Prop
  | .data chunk =>
      let frames := (splitFrames (state.tunnel.buffer ++ chunk)).1
      state.tunnel.frames.length + (handshakeFrames state.tunnel frames).length ≤
          limit + state.tunnel.frameWaiters.length ∧
        state.tunnel.Undisturbed aesCbcDecrypt parseJson listener state.world frames
  | .quiet _ => False
  | _ => True

end

/-! ## What a call of `onData` holds on to -/

/-- `parseFrame` waits for less than the largest frame. -/
theorem length_lt_of_waits {data : List UInt8} (waits : parseFrame data = .ok none) :
    data.length < frameHeaderLen + maxFrameCtLen + frameTrailerLen := by
  by_cases header : frameHeaderLen ≤ data.length
  · rw [parseFrame_of_header header] at waits
    split at waits
    · cases waits
    · split at waits
      · cases waits
      · rename_i small
        split at waits
        · rename_i short
          omega
        · split at waits
          · cases waits
          · cases waits
  · simp only [frameHeaderLen, maxFrameCtLen, frameTrailerLen] at header ⊢
    omega

section

variable {aesCbcDecrypt : List UInt8 → List UInt8 → Except String (List UInt8)}
variable {parseJson : List UInt8 → Except String Json}
variable {World : Type} {listener : World → Json → Except String World}

/-- A frame of the handshake goes to the first waiter or to the queue, and any other to neither. -/
theorem queues_of_onFrame {tunnel tunnel' : Tunnel} {frame : Frame} {effect : Effect}
    (returned : tunnel.onFrame aesCbcDecrypt parseJson frame = .ok (tunnel', effect)) :
    tunnel'.sessionKey = tunnel.sessionKey ∧
      tunnel'.frames = tunnel.frames ++
        (handshakeFrames tunnel [frame]).drop tunnel.frameWaiters.length ∧
      tunnel'.frameWaiters = tunnel.frameWaiters.drop (handshakeFrames tunnel [frame]).length := by
  by_cases handshake : tunnel.sessionKey = none ∨ frame.type ≠ msgTypeSession
  · have own : handshakeFrames tunnel [frame] = [frame] := by
      rcases handshake with closed | other
      · simp [handshakeFrames, closed]
      · simp [handshakeFrames, other]
    rw [Tunnel.onFrame_of_handshake _ _ handshake, Tunnel.onHandshakeFrame] at returned
    rw [own]
    split at returned
    · rename_i expected waiters waiting
      cases returned
      simp [waiting]
    · rename_i waiting
      cases returned
      simp [waiting]
  · rw [not_or, not_not] at handshake
    obtain ⟨key, opened⟩ := Option.ne_none_iff_exists'.mp handshake.1
    have none_own : handshakeFrames tunnel [frame] = [] := by
      simp [handshakeFrames, opened, handshake.2]
    rw [Tunnel.onFrame_of_session _ _ opened handshake.2] at returned
    rw [none_own, List.drop_nil, List.append_nil, List.length_nil, List.drop_zero]
    split at returned
    · cases returned
      exact ⟨rfl, rfl, rfl⟩
    · rename_i message _
      have present : message ≠ .null := by
        rintro rfl
        cases returned
      rw [Tunnel.dispatch_of_ne_null present] at returned
      split at returned
      · cases returned
        exact ⟨rfl, rfl, rfl⟩
      · cases returned
        exact ⟨rfl, rfl, rfl⟩

/-- Handshake frames serve the waiters in order, and those that are left over are queued. -/
theorem queues_of_handOver {tunnel tunnel' : Tunnel} {world world' : World} {frames : List Frame}
    {effects : List Effect}
    (returned : (tunnel.handOver aesCbcDecrypt parseJson listener world frames).2 =
      .ok (tunnel', world', effects)) :
    tunnel'.frames = tunnel.frames ++
        (handshakeFrames tunnel frames).drop tunnel.frameWaiters.length ∧
      tunnel'.frameWaiters = tunnel.frameWaiters.drop (handshakeFrames tunnel frames).length := by
  induction frames generalizing tunnel world effects with
  | nil =>
      cases returned
      simp [handshakeFrames]
  | cons frame frames induction =>
      rw [Tunnel.handOver] at returned
      split at returned
      · cases returned
      · rename_i next world'' effect handled
        obtain ⟨⟨_, _, others⟩, later, done⟩ := bind_eq_ok_iff.mp returned
        cases done
        obtain ⟨⟨_, _⟩, onFrame, rest⟩ := bind_eq_ok_iff.mp handled
        obtain ⟨_, -, done⟩ := bind_eq_ok_iff.mp rest
        cases done
        obtain ⟨key, queued, served⟩ := queues_of_onFrame onFrame
        obtain ⟨queued', served'⟩ := induction later
        have parts : handshakeFrames tunnel (frame :: frames) =
            handshakeFrames tunnel [frame] ++ handshakeFrames next frames := by
          simp only [handshakeFrames, key]
          exact List.filter_append [frame] frames
        rw [queued', served', queued, served, parts]
        constructor
        · rw [List.append_assoc, List.drop_append, List.length_drop]
        · rw [List.drop_drop, List.length_append]

/-- What a call of `onData` leaves unread, queued and waiting. -/
theorem holds_of_onData {tunnel tunnel' : Tunnel} {world world' : World} {chunk : List UInt8}
    {effects : List Effect}
    (returned : tunnel.onData aesCbcDecrypt parseJson listener world chunk =
      .ok (tunnel', world', effects)) :
    (tunnel'.hasSocket = true →
        tunnel'.buffer.length < frameHeaderLen + maxFrameCtLen + frameTrailerLen) ∧
      tunnel'.frames = tunnel.frames ++
        (handshakeFrames tunnel (splitFrames (tunnel.buffer ++ chunk)).1).drop
          tunnel.frameWaiters.length ∧
      tunnel'.frameWaiters = tunnel.frameWaiters.drop
        (handshakeFrames tunnel (splitFrames (tunnel.buffer ++ chunk)).1).length := by
  obtain ⟨frames, ending, splits⟩ :=
    Splits.total incremental_parseFrame (tunnel.buffer ++ chunk)
  rw [splitFrames_of_splits splits]
  rw [Tunnel.onData, ← Tunnel.outcome_deliverLoop] at returned
  cases handed : (tunnel.handOver aesCbcDecrypt parseJson listener world frames).2 with
  | error thrown =>
      obtain ⟨buffer, tail, -, -, delivered⟩ := Tunnel.deliverLoop_of_throws _ _ _ splits handed
      rw [delivered] at returned
      cases returned
  | ok done =>
      obtain ⟨next, world'', accounts⟩ := done
      have queues := queues_of_handOver handed
      cases ending with
      | ok left =>
          rw [Tunnel.deliverLoop_of_waits _ _ _ splits handed] at returned
          cases returned
          exact ⟨fun _ => length_lt_of_waits splits.waits, queues⟩
      | error error =>
          obtain ⟨buffer, delivered⟩ := Tunnel.deliverLoop_of_stops _ _ _ splits handed
          rw [delivered] at returned
          cases returned
          exact ⟨nofun, queues⟩

end

/-! ## What everything else holds on to -/

/-- Nothing that a tunnel holds on to has changed. -/
structure Same (before after : Tunnel) : Prop where
  buffer : after.buffer = before.buffer
  frames : after.frames = before.frames
  frameWaiters : after.frameWaiters = before.frameWaiters
  hasSocket : after.hasSocket = true → before.hasSocket = true

theorem same_settle (tunnel : Tunnel) (seq : ℕ) (effect : Effect) :
    Same tunnel (tunnel.settle seq effect).1 := by
  rw [Tunnel.settle]
  split
  · exact ⟨rfl, rfl, rfl, id⟩
  · exact ⟨rfl, rfl, rfl, id⟩

theorem same_request (tunnel : Tunnel) (cmd : String) (data : Json) :
    Same tunnel (tunnel.request cmd data).1 := by
  rw [Tunnel.request]
  split
  · exact ⟨rfl, rfl, rfl, id⟩
  · simp only
    split
    · obtain ⟨buffer, frames, waiters, socket⟩ := same_settle
        { tunnel with seq := tunnel.seq + 1, pending := tunnel.pending ++ [⟨tunnel.seq + 1, cmd⟩] }
        (tunnel.seq + 1) (.rejected (tunnel.seq + 1) "The tunnel is closed")
      exact ⟨buffer, frames, waiters, socket⟩
    · split
      · obtain ⟨buffer, frames, waiters, socket⟩ := same_settle
          { tunnel with seq := tunnel.seq + 1, pending := tunnel.pending ++ [⟨tunnel.seq + 1, cmd⟩] }
          (tunnel.seq + 1)
          (.rejected (tunnel.seq + 1) "Cannot call write after a stream was destroyed")
        exact ⟨buffer, frames, waiters, socket⟩
      · exact ⟨rfl, rfl, rfl, id⟩

theorem same_keepalive (tunnel : Tunnel) (now : ℕ) : Same tunnel (tunnel.keepalive now).1 := by
  rw [Tunnel.keepalive]
  split
  · exact ⟨rfl, rfl, rfl, id⟩
  · split
    · exact ⟨rfl, rfl, rfl, id⟩
    · exact ⟨rfl, rfl, rfl, id⟩

theorem same_timeout (tunnel : Tunnel) (seq : ℕ) : Same tunnel (tunnel.timeout seq).1 := by
  rw [Tunnel.timeout]
  split
  · exact same_settle _ _ _
  · exact ⟨rfl, rfl, rfl, id⟩

theorem same_close (tunnel : Tunnel) : Same tunnel tunnel.close.1 := ⟨rfl, rfl, rfl, nofun⟩

theorem same_onClose (tunnel : Tunnel) : Same tunnel tunnel.onClose.1 := ⟨rfl, rfl, rfl, id⟩

/-! ## Whole runs -/

section

variable {aesCbcDecrypt : List UInt8 → List UInt8 → Except String (List UInt8)}
variable {parseJson : List UInt8 → Except String Json}
variable {World : Type} {listener : World → Json → Except String World}
variable {limit : ℕ} {state next : State World}

theorem bounded_of_same (bounded : Bounded limit state) {tunnel : Tunnel}
    (same : Same state.tunnel tunnel) : Bounded limit { state with tunnel } where
  buffer connected := by
    rw [same.buffer]
    exact bounded.buffer (same.hasSocket connected)
  frames := by
    rw [same.frames]
    exact bounded.frames
  waiters := by
    rw [same.frameWaiters]
    exact bounded.waiters

theorem bounded_of_data (bounded : Bounded limit state) {chunk : List UInt8}
    (asked : Asked aesCbcDecrypt parseJson listener limit state (.data chunk)) :
    Bounded limit (perform aesCbcDecrypt parseJson listener state (.data chunk)) := by
  obtain ⟨room, quiet⟩ := asked
  obtain ⟨tunnel, world, accounts, closing, returned, -⟩ :=
    (Tunnel.onDataLoop_returns_iff aesCbcDecrypt parseJson listener
      (state.tunnel.buffer ++ chunk) state.tunnel state.world).mpr quiet
  obtain ⟨buffer, frames, waiters⟩ := holds_of_onData returned
  have left := afterLoop_of_returns aesCbcDecrypt parseJson listener returned
  simp only [perform, left]
  refine ⟨buffer, ?_, ?_⟩
  · have short := bounded.frames
    rw [frames, List.length_append, List.length_drop]
    omega
  · rw [waiters, bounded.waiters, List.length_drop, List.map_drop, List.drop_eq_drop_iff,
      List.length_map]
    omega

theorem bounded_of_nextFrame (bounded : Bounded limit state) (type : ℕ) :
    Bounded limit (perform aesCbcDecrypt parseJson listener state (.nextFrame type)) := by
  simp only [perform, Tunnel.nextFrame]
  cases queued : state.tunnel.frames with
  | cons frame frames =>
      have room := bounded.frames
      rw [queued, List.length_cons] at room
      exact ⟨bounded.buffer, by simp only; omega, bounded.waiters⟩
  | nil =>
      refine ⟨bounded.buffer, Nat.zero_le limit, ?_⟩
      simp only [List.map_append, List.map_cons, List.map_nil, bounded.waiters]

/-- A step that the hub and the timers allow keeps the tunnel bounded. -/
theorem bounded_of_perform (bounded : Bounded limit state) {label : Label}
    (asked : Asked aesCbcDecrypt parseJson listener limit state label) :
    Bounded limit (perform aesCbcDecrypt parseJson listener state label) := by
  cases label with
  | data chunk => exact bounded_of_data bounded asked
  | nextFrame type => exact bounded_of_nextFrame bounded type
  | quiet caller => exact False.elim asked
  | opened key => exact bounded_of_same bounded ⟨rfl, rfl, rfl, id⟩
  | request cmd data => exact bounded_of_same bounded (same_request _ _ _)
  | keepalive now => exact bounded_of_same bounded (same_keepalive _ _)
  | sendFailed seq error => exact bounded_of_same bounded (same_settle _ _ _)
  | timeout seq => exact bounded_of_same bounded (same_timeout _ _)
  | close => exact bounded_of_same bounded (same_close _)
  | socketClose => exact bounded_of_same bounded (same_onClose _)

/-- What a tunnel holds on to stays bounded in every run in which the hub sends no more than was
asked for, `onData` returns and nobody waits in vain. -/
theorem run_bounded {labels : List Label}
    (run : (machine aesCbcDecrypt parseJson listener).Run
      (Asked aesCbcDecrypt parseJson listener limit) labels state) :
    Bounded limit state := by
  refine run.invariant ?_ ?_
  · rintro state ⟨buffer, frames, waiters, rejected⟩
    refine ⟨fun _ => ?_, ?_, ?_⟩
    · rw [buffer]
      exact Nat.succ_pos _
    · rw [frames]
      exact Nat.zero_le _
    · rw [rejected, waiters]
      rfl
  · rintro state label next bounded asked ⟨-, rfl⟩
    exact bounded_of_perform bounded asked

end

/-! ## A hub that sends offers, and one that says `null` -/

open Tunnel (offerFrame offerFrame_sendable)

/-- The machine with a cipher that reads nothing but `null` and a listener that does nothing. -/
def quietMachine : Machine (State Unit) Label :=
  machine decryptNull parseNull fun world _ => .ok world

/-- What is asked of it. -/
def QuietAsked (limit : ℕ) : State Unit → Label → Prop :=
  Asked decryptNull parseNull (fun world _ => .ok world) limit

/-- A tunnel when the TCP connection is up. -/
def connected : State Unit where
  tunnel := { Tunnel.openTunnel with sessionKey := none, keepaliveTimer := false }
  world := ()
  rejected := []

theorem splits_offer {buffer : List UInt8} (empty : buffer = []) :
    Splits parseFrame (buffer ++ offerFrame.bytes) [offerFrame] (.ok []) := by
  have sendable : ∀ frame ∈ [offerFrame], frame.Sendable := by simp [offerFrame_sendable]
  have one := splits_bytes sendable splits_nil
  simpa [empty] using one

/-- A frame of the handshake at the head of the buffer. -/
theorem afterLoop_offer (tunnel : Tunnel) :
    afterLoop decryptNull parseNull (fun world _ => .ok world) offerFrame.bytes tunnel () =
      ({ (tunnel.onHandshakeFrame offerFrame).1 with buffer := [] }, ()) := by
  have handled : tunnel.handle decryptNull parseNull (fun world _ => .ok world) () offerFrame =
      .ok ((tunnel.onHandshakeFrame offerFrame).1, (), (tunnel.onHandshakeFrame offerFrame).2) := by
    rw [Tunnel.handle, Tunnel.onFrame_of_handshake _ _ (Or.inr (by decide)), ok_bind]
    simp only [Tunnel.onHandshakeFrame]
    cases tunnel.frameWaiters with
    | nil => rfl
    | cons expected waiters => rfl
  have parsed := parseFrame_bytes offerFrame_sendable []
  rw [List.append_nil] at parsed
  rw [afterLoop_of_some _ _ _ _ _ parsed, handled]
  exact afterLoop_of_none _ _ _ _ _ (by decide)

theorem perform_offer {state : State Unit} (empty : state.tunnel.buffer = [])
    (unwaited : state.tunnel.frameWaiters = []) :
    perform decryptNull parseNull (fun world _ => .ok world) state (.data offerFrame.bytes) =
      { state with
        tunnel := { state.tunnel with frames := state.tunnel.frames ++ [offerFrame] } } := by
  obtain ⟨tunnel, ⟨⟩, rejected⟩ := state
  simp only at empty unwaited
  simp only [perform, empty, List.nil_append, afterLoop_offer, Tunnel.onHandshakeFrame, unwaited]
  simp [← empty, ← unwaited]

/-- A tunnel whose handshake waits for the hub's offer. -/
def waiting : State Unit where
  tunnel := { connected.tunnel with frameWaiters := [msgTypeEcdh] }
  world := ()
  rejected := [false]

theorem perform_awaited :
    perform decryptNull parseNull (fun world _ => .ok world) waiting (.data offerFrame.bytes) =
      connected := by
  have empty : waiting.tunnel.buffer ++ offerFrame.bytes = offerFrame.bytes := List.nil_append _
  rw [perform, empty]
  simp only [waiting, afterLoop_offer]
  rfl

/-- A caller that asks for a frame gets it, and the next one waits for its own. -/
theorem asked_run_bounded : ∃ labels state,
    quietMachine.Run (QuietAsked 0) labels state ∧ state.tunnel.frameWaiters = [msgTypeVerify] ∧
      Bounded 0 state := by
  have start : quietMachine.Run (QuietAsked 0) [] connected := .start ⟨rfl, rfl, rfl, rfl⟩
  have asks : quietMachine.Run (QuietAsked 0) [.nextFrame msgTypeEcdh] waiting :=
    start.extend (.nextFrame msgTypeEcdh) trivial ⟨trivial, rfl⟩
  have asked : QuietAsked 0 waiting (.data offerFrame.bytes) := by
    have alone : splitFrames (waiting.tunnel.buffer ++ offerFrame.bytes) = ([offerFrame], .ok []) :=
      splitFrames_of_splits (splits_offer rfl)
    simp only [QuietAsked, Asked, alone]
    refine ⟨by decide, ?_, returns_ok _⟩
    simp only [List.mem_singleton, forall_eq]
    rintro ⟨_, -, session, -⟩
    exact absurd session (by decide)
  have served := asks.extend (.data offerFrame.bytes) asked ⟨rfl, perform_awaited.symm⟩
  have run := served.extend (.nextFrame msgTypeVerify) trivial ⟨trivial, rfl⟩
  exact ⟨_, _, run, rfl, run_bounded run⟩

/-- A session frame that says `null`, under the key of `Tunnel.openTunnel`. -/
def nullSession : Frame := ⟨msgTypeSession, nullCiphertext⟩

theorem nullSession_sendable : nullSession.Sendable := ⟨by decide, by decide⟩

/-- Some of them one after the other. -/
def nullSessions (count : ℕ) : List UInt8 := (List.replicate count nullSession).flatMap Frame.bytes

theorem nullSessions_add (count more : ℕ) :
    nullSessions (count + more) = nullSessions count ++ nullSessions more := by
  rw [nullSessions, List.replicate_add, List.flatMap_append, nullSessions, nullSessions]

theorem le_length_nullSessions (count : ℕ) : count ≤ (nullSessions count).length := by
  induction count with
  | zero => exact Nat.zero_le _
  | succ count induction =>
      have one : 0 < (nullSessions 1).length := by decide
      rw [nullSessions_add, List.length_append]
      omega

/-- One of them at the head of the buffer is read, and the others are left. -/
theorem afterLoop_nullSession {tunnel : Tunnel}
    (opened : tunnel.sessionKey = some (List.replicate 16 7)) (rest : List UInt8) :
    afterLoop decryptNull parseNull (fun world _ => .ok world) (nullSession.bytes ++ rest) tunnel () =
      ({ tunnel with buffer := rest }, ()) := by
  have thrown : ∃ error,
      tunnel.handle decryptNull parseNull (fun world _ => .ok world) () nullSession =
        .error error := by
    rw [Tunnel.handle, Tunnel.onFrame_of_session _ _ opened rfl]
    exact ⟨_, rfl⟩
  obtain ⟨error, thrown⟩ := thrown
  rw [afterLoop_of_some _ _ _ _ _ (parseFrame_bytes nullSession_sendable rest), thrown]

/-- Two of them arrive, and one is read. -/
theorem perform_nullSessions {state : State Unit} {count : ℕ}
    (opened : state.tunnel.sessionKey = some (List.replicate 16 7))
    (unread : state.tunnel.buffer = nullSessions count) :
    (perform decryptNull parseNull (fun world _ => .ok world) state (.data (nullSessions 2))).tunnel =
      { state.tunnel with buffer := nullSessions (count + 1) } := by
  have arrived : state.tunnel.buffer ++ nullSessions 2 =
      nullSession.bytes ++ nullSessions (count + 1) := by
    have first : nullSessions 1 = nullSession.bytes := List.append_nil _
    rw [unread, ← first, ← nullSessions_add, ← nullSessions_add, Nat.add_comm 1]
  simp only [perform, arrived, afterLoop_nullSession opened]

/-- Handshake frames that nobody asked for pile up, a caller that gives up leaves its waiter, and
frames that say `null` are left unread. -/
theorem unasked_frames_pile_up :
    (∀ limit, ∃ labels state, quietMachine.Run (fun _ _ => True) labels state ∧
        limit < state.tunnel.frames.length) ∧
      (∃ labels state, quietMachine.Run (fun _ _ => True) labels state ∧
        state.tunnel.frameWaiters = [msgTypeEcdh] ∧ state.rejected = [true]) ∧
      ∀ bound, ∃ labels state, quietMachine.Run (fun _ _ => True) labels state ∧
        state.tunnel.hasSocket = true ∧ bound ≤ state.tunnel.buffer.length := by
  have start : quietMachine.Run (fun _ _ => True) [] connected := .start ⟨rfl, rfl, rfl, rfl⟩
  refine ⟨fun limit => ?_, ?_, fun bound => ?_⟩
  · have piles : ∃ labels state, quietMachine.Run (fun _ _ => True) labels state ∧
        state.tunnel.frames.length = limit + 1 ∧ state.tunnel.buffer = [] ∧
          state.tunnel.frameWaiters = [] ∧ state.tunnel.hasSocket = true := by
      induction limit + 1 with
      | zero => exact ⟨_, _, start, rfl, rfl, rfl, rfl⟩
      | succ count induction =>
          obtain ⟨labels, state, run, length, empty, unwaited, open_⟩ := induction
          have next := run.extend (.data offerFrame.bytes) trivial
            ⟨open_, (perform_offer empty unwaited).symm⟩
          exact ⟨_, _, next, by simp [length], empty, unwaited, open_⟩
    obtain ⟨labels, state, run, length, -⟩ := piles
    exact ⟨labels, state, run, by omega⟩
  · have waiting := start.extend (.nextFrame msgTypeEcdh) trivial ⟨trivial, rfl⟩
    have gone := waiting.extend (.quiet 0) trivial ⟨rfl, rfl⟩
    exact ⟨_, _, gone, rfl, rfl⟩
  · have unread : ∃ labels state, quietMachine.Run (fun _ _ => True) labels state ∧
        state.tunnel.sessionKey = some (List.replicate 16 7) ∧ state.tunnel.hasSocket = true ∧
          state.tunnel.buffer = nullSessions bound := by
      induction bound with
      | zero =>
          have opens := start.extend (.opened (List.replicate 16 7)) trivial ⟨trivial, rfl⟩
          exact ⟨_, _, opens, rfl, rfl, rfl⟩
      | succ count induction =>
          obtain ⟨labels, state, run, opened, open_, unread⟩ := induction
          have next := run.extend (.data (nullSessions 2)) trivial ⟨open_, rfl⟩
          have left := perform_nullSessions opened unread
          exact ⟨_, _, next, by rw [left]; exact opened, by rw [left]; exact open_, by rw [left]⟩
    obtain ⟨labels, state, run, -, open_, unread⟩ := unread
    exact ⟨labels, state, run, open_, unread ▸ le_length_nullSessions bound⟩

end Buffering
end Port
end AqaraLanLink
