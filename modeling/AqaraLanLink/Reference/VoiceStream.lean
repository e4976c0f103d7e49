import AqaraLanLink.Library.Rtp
import AqaraLanLink.Reference.Talk
import AqaraLanLink.Reference.TalkFrames

/-!
# The audio of a voice session

What the speaker of a camera is sent: `send_audio_frame` of `device/camera/talk.py` under the service
`play_audio_file` (`device/camera/base.py`), whose calls share one client, and the loop of the
bridge that go2rtc starts (`device/camera/bridge.py`).
-/

namespace AqaraLanLink
namespace Reference
namespace VoiceStream

open Library Endian TalkPackets TalkFrames

/-! ## Datagrams -/

/-- `RTP_PAYLOAD_TYPE`. -/
def rtpPayloadType : ℕ := 97

/-- `_AAC_FRAME_SAMPLES`. -/
def aacFrameSamples : ℕ := 1024

/-- `build_rtp_header`; the masks keep the remainders. -/
def buildRtpHeader (payloadType timestamp ssrc seqNum : ℤ) : Except Exception (List UInt8) := do
  .ok ((← pack 1 0x80) ++ (← pack 1 payloadType) ++ (← pack 2 (seqNum % 0x10000)) ++
    (← pack 4 (timestamp % 0x100000000)) ++ (← pack 4 (ssrc % 0x100000000)))

/-! ## Files -/

/-- A call of `play_audio_file` from where its file has been read. -/
structure Play where
  audioData : List UInt8
  /-- The frames that the loop has not come to. -/
  frames : List (List UInt8)
  tsSamples : ℕ
  /-- The loop has ended with `break`. -/
  broken : Bool
  deriving DecidableEq, Repr

def Play.start (audioData : List UInt8) : Play := ⟨audioData, extractAdtsFrames audioData, 0, false⟩

/-- A talk client, the calls that play files on it, and what it has sent. -/
structure Voice where
  client : Talk.TalkClient
  /-- `_ssrc`. -/
  ssrc : ℕ
  /-- `_seq_num`. -/
  seqNum : ℕ
  plays : List Play
  /-- The datagrams, with the number of the call. -/
  sent : List (ℕ × List UInt8)

/-- `send_audio_frame`. -/
def Voice.sendAudioFrame (voice : Voice) (call : ℕ) (aacFrame : List UInt8)
    (timestampSamples : ℕ) : Except Exception Voice :=
  match voice.client.transport with
  | none => .ok voice
  | some _ => do
      let header ← buildRtpHeader rtpPayloadType timestampSamples voice.ssrc voice.seqNum
      .ok { voice with
        seqNum := voice.seqNum + 1
        sent := voice.sent ++ [(call, header ++ aacFrame)] }

/-- One turn of the loop of `_send_aac_file`. -/
def Voice.turn (voice : Voice) (call : ℕ) (play : Play) : Except Exception Voice :=
  match play.frames with
  | [] => .ok voice
  | frame :: frames =>
      if voice.client.connected then do
        let voice ← voice.sendAudioFrame call frame play.tsSamples
        .ok { voice with
          plays := voice.plays.set call
            { play with frames, tsSamples := play.tsSamples + aacFrameSamples } }
      else .ok { voice with plays := voice.plays.set call { play with broken := true } }

inductive Label where
  /-- Something happens to the client. -/
  | talk (label : Talk.Label)
  /-- A call of `play_audio_file` has read its file. -/
  | play (audioData : List UInt8)
  /-- The loop of a call takes a turn. -/
  | turn (call : ℕ)

/-- What a label does; a call that has broken off takes no turn. -/
inductive Step (voice : Voice) : Label → Voice → Prop
  | talk {label : Talk.Label} {client : Talk.TalkClient}
      (step : Talk.machine.step voice.client label client) :
      Step voice (.talk label) { voice with client }
  | play (audioData : List UInt8) :
      Step voice (.play audioData) { voice with plays := voice.plays ++ [.start audioData] }
  | turn {call : ℕ} {play : Play} {next : Voice} (there : voice.plays[call]? = some play)
      (going : play.broken = false) (turns : voice.turn call play = .ok next) :
      Step voice (.turn call) next

/-- A talk client from its construction on. -/
def machine : Machine Voice Label where
  initial voice := Talk.machine.initial voice.client ∧ (1 ≤ voice.ssrc ∧ voice.ssrc ≤ 2147483647) ∧
    voice.seqNum = 0 ∧ voice.plays = [] ∧ voice.sent = []
  step := Step

/-! ## The bridge -/

/-- A session of the bridge, with the datagrams it has sent. -/
structure BridgeSession where
  ssrc : ℕ
  seqNum : ℕ
  sent : List (List UInt8)
  deriving DecidableEq, Repr

/-- `send_audio_frame` of the bridge. -/
def BridgeSession.sendAudioFrame (session : BridgeSession) (aacFrame : List UInt8) :
    Except Exception BridgeSession := do
  let ts := session.seqNum * aacFrameSamples
  let header ← buildRtpHeader rtpPayloadType ts session.ssrc session.seqNum
  .ok { session with seqNum := session.seqNum + 1, sent := session.sent ++ [header ++ aacFrame] }

/-- The bridge, with its encoder. -/
structure Bridge where
  encoder : Session
  session : BridgeSession
  deriving DecidableEq, Repr

/-- The frames that a call of the encoder returns are sent. -/
def Bridge.send (bridge : Bridge) (encoder : Session) : Except Exception Bridge := do
  let frames := (encoder.returned.drop bridge.encoder.returned.length).map Prod.snd
  .ok ⟨encoder, ← frames.foldlM BridgeSession.sendAudioFrame bridge.session⟩

/-- One piece of the standard input, with what `write_pcm` reads from the encoder. -/
def Bridge.write (bridge : Bridge) (chunks : Option (List UInt8)) : Except Exception Bridge :=
  bridge.send (bridge.encoder.writePcm chunks)

/-- The loop of `main` of the bridge: the pieces of the standard input, and then `flush`. -/
def bridge (ssrc : ℕ) (writes : List (Option (List UInt8))) (remaining : List UInt8) :
    Except Exception Bridge := do
  let running ← writes.foldlM Bridge.write ⟨.start, ⟨ssrc, 0, []⟩⟩
  running.send (running.encoder.flush remaining)

/-! ## Packets -/

/-- The packet of a datagram. -/
def packet (ssrc seqNum timestamp : ℕ) (frame : List UInt8) : Rtp.Packet :=
  ⟨97, seqNum % 2 ^ 16, timestamp % 2 ^ 32, ssrc % 2 ^ 32, frame⟩

theorem fits_packet (ssrc seqNum timestamp : ℕ) (frame : List UInt8) :
    (packet ssrc seqNum timestamp frame).Fits where
  sequence := Nat.mod_lt _ (Nat.two_pow_pos 16)
  timestamp := Nat.mod_lt _ (Nat.two_pow_pos 32)
  source := Nat.mod_lt _ (Nat.two_pow_pos 32)

@[simp] theorem read_packet (ssrc seqNum timestamp : ℕ) (frame : List UInt8) :
    Rtp.read (Rtp.write (packet ssrc seqNum timestamp frame)) =
      some (packet ssrc seqNum timestamp frame) :=
  Rtp.read_write (fits_packet ssrc seqNum timestamp frame)

/-- A header can always be built; with its frame, it is a packet. -/
theorem exists_header (ssrc seqNum timestamp : ℕ) : ∃ header,
    buildRtpHeader rtpPayloadType timestamp ssrc seqNum = .ok header ∧
      ∀ frame, header ++ frame = Rtp.write (packet ssrc seqNum timestamp frame) := by
  have version : pack 1 0x80 = .ok [0x80] := rfl
  have type : pack 1 (rtpPayloadType : ℤ) = .ok [97] := rfl
  have sequence : pack 2 ((seqNum : ℤ) % 0x10000) = .ok (bigBytes 2 (seqNum % 2 ^ 16)) :=
    pack_of_lt (show seqNum % 2 ^ 16 < 256 ^ 2 from Nat.mod_lt seqNum (Nat.two_pow_pos 16))
  have clock : pack 4 ((timestamp : ℤ) % 0x100000000) = .ok (bigBytes 4 (timestamp % 2 ^ 32)) :=
    pack_of_lt (show timestamp % 2 ^ 32 < 256 ^ 4 from Nat.mod_lt timestamp (Nat.two_pow_pos 32))
  have source : pack 4 ((ssrc : ℤ) % 0x100000000) = .ok (bigBytes 4 (ssrc % 2 ^ 32)) :=
    pack_of_lt (show ssrc % 2 ^ 32 < 256 ^ 4 from Nat.mod_lt ssrc (Nat.two_pow_pos 32))
  refine ⟨_, by rw [buildRtpHeader, version, type, sequence, clock, source]; rfl, fun frame => ?_⟩
  simp only [Rtp.write, packet, List.append_assoc, List.cons_append, List.nil_append]

/-- The datagram that carries a frame. -/
def datagram (ssrc seqNum timestamp : ℕ) (frame : List UInt8) : List UInt8 :=
  Rtp.write (packet ssrc seqNum timestamp frame)

theorem sendAudioFrame_eq (voice : Voice) (call : ℕ) (frame : List UInt8) (timestamp : ℕ)
    (bound : voice.client.transport ≠ none) :
    voice.sendAudioFrame call frame timestamp = .ok { voice with
      seqNum := voice.seqNum + 1
      sent := voice.sent ++ [(call, datagram voice.ssrc voice.seqNum timestamp frame)] } := by
  obtain ⟨header, built, whole⟩ := exists_header voice.ssrc voice.seqNum timestamp
  rw [Voice.sendAudioFrame]
  split
  · next unbound => exact absurd unbound bound
  · rw [built, ok_bind, whole, datagram]

/-- What a turn of a loop can do. -/
inductive Turned (voice : Voice) (call : ℕ) (play : Play) (next : Voice) : Prop
  /-- Every frame has been sent. -/
  | ended (empty : play.frames = []) (same : next = voice)
  /-- The loop breaks off. -/
  | breaks (some : play.frames ≠ []) (off : voice.client.connected = false)
      (after : next = { voice with plays := voice.plays.set call { play with broken := true } })
  /-- The client has no transport, and the frame is lost. -/
  | lost {frame : List UInt8} {frames : List (List UInt8)} (taken : play.frames = frame :: frames)
      (on : voice.client.connected = true) (unbound : voice.client.transport = none)
      (after : next = { voice with
        plays := voice.plays.set call
          { play with frames, tsSamples := play.tsSamples + aacFrameSamples } })
  | sends {frame : List UInt8} {frames : List (List UInt8)} (taken : play.frames = frame :: frames)
      (on : voice.client.connected = true) (bound : voice.client.transport ≠ none)
      (after : next = { voice with
        seqNum := voice.seqNum + 1
        sent := voice.sent ++ [(call, datagram voice.ssrc voice.seqNum play.tsSamples frame)]
        plays := voice.plays.set call
          { play with frames, tsSamples := play.tsSamples + aacFrameSamples } })

theorem turned_of_turn {voice next : Voice} {call : ℕ} {play : Play}
    (turns : voice.turn call play = .ok next) : Turned voice call play next := by
  rw [Voice.turn] at turns
  split at turns
  · next empty => exact .ended empty (Except.ok.inj turns).symm
  · next frame frames taken =>
    split at turns
    · next on =>
      by_cases unbound : voice.client.transport = none
      · rw [Voice.sendAudioFrame, unbound] at turns
        exact .lost taken on unbound (Except.ok.inj turns).symm
      · rw [sendAudioFrame_eq voice call frame play.tsSamples unbound] at turns
        exact .sends taken on unbound (Except.ok.inj turns).symm
    · next off =>
      have some : play.frames ≠ [] := by
        rw [taken]
        exact List.cons_ne_nil frame frames
      exact .breaks some (Bool.eq_false_of_not_eq_true off) (Except.ok.inj turns).symm

/-! ## Files that are played -/

/-- What happens to the client are the steps at which it owns its sockets. -/
def Careful (voice : Voice) : Label → Prop
  | .talk label => Talk.Careful voice.client label
  | _ => True

/-- What the camera reads of the datagrams of a call: the clock and the payload. -/
def heard (sent : List (ℕ × List UInt8)) (call : ℕ) : List (Option (ℕ × List UInt8)) :=
  (sent.filter fun sent => sent.1 = call).map fun sent =>
    (Rtp.read sent.2).map fun packet => (packet.timestamp, packet.payload)

/-- Frames at the clock of their file. -/
def clocked (frames : List (List UInt8)) : List (Option (ℕ × List UInt8)) :=
  frames.mapIdx fun number frame => some (aacFrameSamples * number % 2 ^ 32, frame)

/-- A call has sent the frames of its file up to those that it has not come to. -/
structure Streams (voice : Voice) (call : ℕ) (play : Play) : Prop where
  passed : ∃ passed, extractAdtsFrames play.audioData = passed ++ play.frames ∧
    play.tsSamples = aacFrameSamples * passed.length ∧ heard voice.sent call = clocked passed

/-- What the camera is sent. -/
structure Delivers (voice : Voice) : Prop where
  /-- Every datagram is a packet of the client, numbered without a gap. -/
  numbered : ∀ number sent, voice.sent[number]? = some sent → ∃ packet, Rtp.read sent.2 = some packet ∧
    packet.kind = 97 ∧ packet.sequence = number % 2 ^ 16 ∧ packet.source = voice.ssrc
  plays : ∀ call play, voice.plays[call]? = some play → Streams voice call play

/-- What a careful run keeps. -/
structure Sending (voice : Voice) : Prop extends Delivers voice where
  reached : ∃ labels, Talk.machine.Run Talk.Careful labels voice.client
  source : voice.ssrc < 2 ^ 32
  counted : voice.seqNum = voice.sent.length
  known : ∀ sent ∈ voice.sent, sent.1 < voice.plays.length

variable {voice next : Voice} {call : ℕ} {play : Play}

theorem heard_concat (sent : List (ℕ × List UInt8)) (call other ssrc seqNum timestamp : ℕ)
    (frame : List UInt8) :
    heard (sent ++ [(call, datagram ssrc seqNum timestamp frame)]) other =
      heard sent other ++ if call = other then [some (timestamp % 2 ^ 32, frame)] else [] := by
  rw [heard, List.filter_append, List.map_append, ← heard]
  by_cases same : call = other
  · rw [if_pos same, List.filter_cons_of_pos (by simpa using same), List.filter_nil,
      List.map_singleton, datagram, read_packet]
    rfl
  · rw [if_neg same, List.filter_cons_of_neg (by simpa using same)]
    rfl

theorem clocked_concat (frames : List (List UInt8)) (frame : List UInt8) :
    clocked (frames ++ [frame]) =
      clocked frames ++ [some (aacFrameSamples * frames.length % 2 ^ 32, frame)] := by
  rw [clocked, List.mapIdx_concat, clocked]

/-- A call has been heard nothing of before it begins. -/
theorem Sending.heard_new (sending : Sending voice) : heard voice.sent voice.plays.length = [] := by
  rw [heard, List.map_eq_nil_iff, List.filter_eq_nil_iff]
  intro sent member same
  have less := sending.known sent member
  have equal : sent.1 = voice.plays.length := by simpa using same
  omega

theorem Sending.begins (sending : Sending voice) (audioData : List UInt8) :
    Sending { voice with plays := voice.plays ++ [.start audioData] } where
  numbered := sending.numbered
  reached := sending.reached
  source := sending.source
  counted := sending.counted
  known sent member := by
    have less := sending.known sent member
    rw [List.length_append, List.length_singleton]
    omega
  plays call play there := by
    rcases Nat.lt_trichotomy call voice.plays.length with before | rfl | behind
    · rw [List.getElem?_append_left before] at there
      exact ⟨(sending.plays call play there).passed⟩
    · rw [List.getElem?_concat_length] at there
      cases there
      exact ⟨[], rfl, rfl, sending.heard_new⟩
    · rw [List.getElem?_eq_none (by rw [List.length_append, List.length_singleton]; omega)] at there
      cases there

/-- A call breaks off, with what it has sent. -/
theorem Sending.breaks (sending : Sending voice) (there : voice.plays[call]? = some play) :
    Sending { voice with plays := voice.plays.set call { play with broken := true } } where
  numbered := sending.numbered
  reached := sending.reached
  source := sending.source
  counted := sending.counted
  known sent member := by
    rw [List.length_set]
    exact sending.known sent member
  plays other another found := by
    rw [List.getElem?_set] at found
    split at found
    · next same =>
      subst same
      split at found
      · cases found
        exact ⟨(sending.plays call play there).passed⟩
      · cases found
    · exact ⟨(sending.plays other another found).passed⟩

/-- One frame more is sent, with the next number. -/
theorem Sending.sends (sending : Sending voice) (there : voice.plays[call]? = some play)
    {frame : List UInt8} {frames : List (List UInt8)} (taken : play.frames = frame :: frames) :
    Sending { voice with
      seqNum := voice.seqNum + 1
      sent := voice.sent ++ [(call, datagram voice.ssrc voice.seqNum play.tsSamples frame)]
      plays := voice.plays.set call
        { play with frames, tsSamples := play.tsSamples + aacFrameSamples } } where
  numbered number sent found := by
    rcases Nat.lt_trichotomy number voice.sent.length with before | rfl | behind
    · rw [List.getElem?_append_left before] at found
      exact sending.numbered number sent found
    · rw [List.getElem?_concat_length] at found
      cases found
      refine ⟨_, read_packet _ _ _ _, rfl, ?_, Nat.mod_eq_of_lt sending.source⟩
      rw [packet, sending.counted]
    · rw [List.getElem?_eq_none (by rw [List.length_append, List.length_singleton]; omega)] at found
      cases found
  reached := sending.reached
  source := sending.source
  counted := by
    rw [List.length_append, List.length_singleton, sending.counted]
  known sent member := by
    rw [List.length_set]
    rcases List.mem_append.mp member with before | now
    · exact sending.known sent before
    · rw [List.mem_singleton.mp now]
      exact (List.getElem?_eq_some_iff.mp there).1
  plays other another found := by
    rw [List.getElem?_set] at found
    split at found
    · next same =>
      subst same
      split at found
      · cases found
        obtain ⟨passed, whole, clock, hears⟩ := (sending.plays call play there).passed
        refine ⟨passed ++ [frame], ?_, ?_, ?_⟩
        · rw [whole, taken, List.append_assoc, List.singleton_append]
        · rw [List.length_append, List.length_singleton, clock, Nat.mul_add, Nat.mul_one]
        · rw [clocked_concat, ← clock, ← hears, heard_concat, if_pos rfl]
      · cases found
    · next different =>
      obtain ⟨passed, whole, clock, hears⟩ := (sending.plays other another found).passed
      refine ⟨passed, whole, clock, ?_⟩
      rw [heard_concat, if_neg different, List.append_nil, hears]

/-- A step of the client, of a call that begins or of a loop that takes a turn. -/
theorem Sending.step (sending : Sending voice) {label : Label} (careful : Careful voice label)
    (steps : Step voice label next) : Sending next := by
  obtain ⟨labels, run⟩ := sending.reached
  cases steps with
  | talk step =>
      exact { sending with
              plays := fun call play there => ⟨(sending.plays call play there).passed⟩
              reached := ⟨_, run.extend _ careful step⟩ }
  | play audioData => exact sending.begins audioData
  | turn there going turns =>
      cases turned_of_turn turns with
      | ended empty same => exact same ▸ sending
      | breaks some off after => exact after ▸ sending.breaks there
      | lost taken on unbound after => exact absurd unbound (Talk.bound_of_connected run on)
      | sends taken on bound after => exact after ▸ sending.sends there taken

/-- In every careful run the camera is sent numbered packets, and of every call the frames of its
file in their order, each a frame's samples behind the one before, without one missing. -/
theorem delivers_of_run {labels : List Label} (run : machine.Run Careful labels voice) :
    Delivers voice := by
  have sending : Sending voice := by
    refine run.invariant ?_ fun voice label next sending careful steps =>
      sending.step careful steps
    intro voice ⟨starts, range, zero, noPlays, nothing⟩
    refine { numbered := fun number sent found => ?_
             plays := fun call play there => ?_
             reached := ⟨[], .start starts⟩
             source := by omega
             counted := by rw [zero, nothing, List.length_nil]
             known := fun sent member => ?_ }
    · rw [nothing] at found
      cases found
    · rw [noPlays] at there
      cases there
    · rw [nothing] at member
      cases member
  exact sending.toDelivers

/-- A client after construction. -/
def constructed : Voice := ⟨Talk.constructed, 1, 0, [], []⟩

theorem run_constructed (good : Voice → Label → Prop) : machine.Run good [] constructed :=
  .start ⟨⟨fun _ => rfl, fun _ => rfl, rfl, fun _ => rfl, rfl, fun _ => rfl, rfl, rfl, rfl, rfl, rfl,
    rfl⟩, by decide, rfl, rfl, rfl⟩

/-- The camera accepts a session, and a file of one frame is played between the frames of another. -/
theorem delivers_frame8 : ∃ voice, voice.sent.map Prod.fst = [0, 1, 0] ∧ Delivers voice := by
  have run := (run_constructed Careful)
    |>.extend (.talk .connect) trivial (.talk ⟨trivial, rfl⟩)
    |>.extend (.talk .tcpOpened) ⟨rfl, fun _ _ => nofun⟩ (.talk ⟨rfl, rfl⟩)
    |>.extend (.talk .startSent) (Option.some_ne_none 0) (.talk ⟨rfl, rfl⟩)
    |>.extend (.talk (.answered (.data [0xFE, 0xEF, 0x02, 0x00, 0x01, 0x00, 0xDC, 0x70])))
      (show ¬ IsEmptyAck _ from fun empty => by cases empty.1) (.talk ⟨rfl, rfl⟩)
    |>.extend (.talk .udpBound) ⟨rfl, Option.some_ne_none 0⟩ (.talk ⟨rfl, rfl⟩)
    |>.extend (.play (frame8 ++ frame8)) trivial (.play (frame8 ++ frame8))
    |>.extend (.play frame8) trivial (.play frame8)
    |>.extend (.turn 0) trivial (.turn rfl rfl rfl)
    |>.extend (.turn 1) trivial (.turn rfl rfl rfl)
    |>.extend (.turn 0) trivial (.turn rfl rfl rfl)
  exact ⟨_, rfl, delivers_of_run run⟩

/-! ## The bridge sends -/

/-- Frames with the next numbers, at the clock that goes with the numbers. -/
def numbered (ssrc : ℕ) : ℕ → List (List UInt8) → List (List UInt8)
  | _, [] => []
  | seqNum, frame :: frames =>
      datagram ssrc seqNum (seqNum * aacFrameSamples) frame :: numbered ssrc (seqNum + 1) frames

theorem numbered_append (ssrc seqNum : ℕ) (first second : List (List UInt8)) :
    numbered ssrc seqNum (first ++ second) =
      numbered ssrc seqNum first ++ numbered ssrc (seqNum + first.length) second := by
  induction first generalizing seqNum with
  | nil => rfl
  | cons frame first induction =>
      rw [List.cons_append, numbered, numbered, induction, List.length_cons, List.cons_append,
        Nat.add_assoc, Nat.add_comm 1]

theorem map_read_numbered (ssrc seqNum : ℕ) (frames : List (List UInt8)) :
    (numbered ssrc seqNum frames).map Rtp.read = frames.mapIdx fun number frame =>
      some (packet ssrc (seqNum + number) ((seqNum + number) * aacFrameSamples) frame) := by
  induction frames generalizing seqNum with
  | nil => rfl
  | cons frame frames induction =>
      rw [numbered, List.map_cons, datagram, read_packet, induction, List.mapIdx_cons]
      simp only [Nat.add_zero, Nat.add_assoc, Nat.add_comm 1]

theorem foldlM_sendAudioFrame (session : BridgeSession) (frames : List (List UInt8)) :
    frames.foldlM BridgeSession.sendAudioFrame session = .ok ⟨session.ssrc,
      session.seqNum + frames.length, session.sent ++ numbered session.ssrc session.seqNum frames⟩ := by
  induction frames generalizing session with
  | nil => rw [numbered, List.append_nil]; rfl
  | cons frame frames induction =>
      obtain ⟨header, built, whole⟩ :=
        exists_header session.ssrc session.seqNum (session.seqNum * aacFrameSamples)
      have sends : session.sendAudioFrame frame = .ok ⟨session.ssrc, session.seqNum + 1,
          session.sent ++ [datagram session.ssrc session.seqNum (session.seqNum * aacFrameSamples)
            frame]⟩ := by
        rw [datagram, ← whole]
        simp only [BridgeSession.sendAudioFrame] at built ⊢
        rw [built, ok_bind]
      rw [List.foldlM_cons, sends, ok_bind, induction, numbered, List.length_cons, List.append_assoc,
        Nat.add_assoc, Nat.add_comm 1]
      rfl

/-- The bridge that has sent what its encoder has returned. -/
def Bridge.upTo (ssrc : ℕ) (encoder : Session) : Bridge :=
  ⟨encoder, ⟨ssrc, encoder.returned.length, numbered ssrc 0 (encoder.returned.map Prod.snd)⟩⟩

theorem send_upTo (ssrc : ℕ) {before after : Session} {found : List (ℕ × List UInt8)}
    (returns : after.returned = before.returned ++ found) :
    (Bridge.upTo ssrc before).send after = .ok (.upTo ssrc after) := by
  have fresh : after.returned.drop (Bridge.upTo ssrc before).encoder.returned.length = found := by
    rw [returns, Bridge.upTo, List.drop_left]
  rw [Bridge.send, fresh, foldlM_sendAudioFrame, ok_bind, Bridge.upTo, Bridge.upTo, returns,
    List.map_append, numbered_append, List.length_append, List.length_map, List.length_map,
    Nat.zero_add]

/-- The bridge sends every frame that its encoder returns. -/
theorem bridge_eq (ssrc : ℕ) (writes : List (Option (List UInt8))) (remaining : List UInt8) :
    bridge ssrc writes remaining =
      .ok (.upTo ssrc ((Session.write writes).flush remaining)) := by
  have running : writes.foldlM Bridge.write ⟨.start, ⟨ssrc, 0, []⟩⟩ =
      .ok (.upTo ssrc (Session.write writes)) := by
    induction writes using List.reverseRecOn with
    | nil => rfl
    | append_singleton writes chunks induction =>
        have written : Session.write (writes ++ [chunks]) = (Session.write writes).writePcm chunks := by
          rw [Session.write, List.foldl_append]
          rfl
        have sends : (Bridge.upTo ssrc (Session.write writes)).write chunks =
            .ok (.upTo ssrc (Session.write (writes ++ [chunks]))) := by
          rw [written]
          cases chunks with
          | none => exact send_upTo ssrc (List.append_nil _).symm
          | some chunks => exact send_upTo ssrc rfl
        rw [List.foldlM_append, induction, ok_bind, List.foldlM_cons, sends]
        rfl
  rw [bridge, running, ok_bind]
  exact send_upTo ssrc rfl

theorem returned_of_framed {writes : List (Option (List UInt8))} {remaining tail : List UInt8}
    {frames : List (List UInt8)} (framed : Framed (stream writes remaining) frames tail) :
    ((Session.write writes).flush remaining).returned.map Prod.snd = frames := by
  rw [stream] at framed
  have ended : Consumed frames tail (Session.write writes) (remaining ++ []) := by
    rw [List.append_nil]
    exact consumed_write framed
  exact ended.read.2 rfl

/-- Out of a framed stream, however it is cut, the bridge sends every frame once and in order; their
numbers and their clock run on without a gap. -/
theorem bridge_delivers {ssrc : ℕ} (source : ssrc < 2 ^ 32) {writes : List (Option (List UInt8))}
    {remaining tail : List UInt8} {frames : List (List UInt8)}
    (framed : Framed (stream writes remaining) frames tail) :
    ∃ after, bridge ssrc writes remaining = .ok after ∧
      after.session.sent.map Rtp.read = frames.mapIdx fun number frame =>
        some ⟨97, number % 2 ^ 16, number * aacFrameSamples % 2 ^ 32, ssrc, frame⟩ := by
  refine ⟨_, bridge_eq ssrc writes remaining, ?_⟩
  rw [Bridge.upTo, returned_of_framed framed, map_read_numbered]
  simp only [packet, Nat.zero_add, Nat.mod_eq_of_lt source]

theorem framed_frame8 (count : ℕ) :
    Framed (List.replicate count frame8).flatten (List.replicate count frame8) [] where
  whole := (List.append_nil _).symm
  each frame member := by
    rw [List.eq_of_mem_replicate member]
    exact ⟨by decide, by decide⟩
  silent := (scan_ideal_eq_nil_iff [] 0).mp rfl
  short := by decide
  last _ frame member := by
    rw [List.eq_of_mem_replicate (List.mem_of_getLast? member)]
    decide

/-- Two frames in three pieces, the second of which ends one frame and begins the other. -/
theorem bridge_delivers_frame8 : ∃ after,
    bridge 1 [some (frame8.take 5), none, some (frame8.drop 5 ++ frame8.take 3)] (frame8.drop 3) =
        .ok after ∧
      after.session.sent.map Rtp.read =
        [some ⟨97, 0, 0, 1, frame8⟩, some ⟨97, 1, 1024, 1, frame8⟩] := by
  have framed : Framed
      (stream [some (frame8.take 5), none, some (frame8.drop 5 ++ frame8.take 3)] (frame8.drop 3))
      [frame8, frame8] [] := framed_frame8 2
  exact bridge_delivers (by decide) framed

/-! ## Files one after the other -/

/-- A call takes a turn only while the client is connected and no other call has frames left. -/
def Undisturbed (voice : Voice) : Label → Prop
  | .turn call => voice.client.connected = true ∧ voice.client.transport ≠ none ∧
      ∀ other ∈ voice.plays.eraseIdx call, other.frames = []
  | _ => True

/-- Frames with the next numbers, at a clock of their own. -/
def spokenFile (ssrc : ℕ) : ℕ → ℕ → List (List UInt8) → List (List UInt8)
  | _, _, [] => []
  | seqNum, ts, frame :: frames =>
      datagram ssrc seqNum ts frame :: spokenFile ssrc (seqNum + 1) (ts + aacFrameSamples) frames

/-- The frames of several files; the clock begins again with every file. -/
def spoken (ssrc : ℕ) : ℕ → List (List (List UInt8)) → List (List UInt8)
  | _, [] => []
  | seqNum, file :: files => spokenFile ssrc seqNum 0 file ++ spoken ssrc (seqNum + file.length) files

@[simp] theorem length_spokenFile (ssrc seqNum ts : ℕ) (frames : List (List UInt8)) :
    (spokenFile ssrc seqNum ts frames).length = frames.length := by
  induction frames generalizing seqNum ts with
  | nil => rfl
  | cons frame frames induction => rw [spokenFile, List.length_cons, induction, List.length_cons]

@[simp] theorem length_numbered (ssrc seqNum : ℕ) (frames : List (List UInt8)) :
    (numbered ssrc seqNum frames).length = frames.length := by
  induction frames generalizing seqNum with
  | nil => rfl
  | cons frame frames induction => rw [numbered, List.length_cons, induction, List.length_cons]

@[simp] theorem length_spoken (ssrc seqNum : ℕ) (files : List (List (List UInt8))) :
    (spoken ssrc seqNum files).length = files.flatten.length := by
  induction files generalizing seqNum with
  | nil => rfl
  | cons file files induction =>
      rw [spoken, List.length_append, length_spokenFile, induction, List.flatten_cons,
        List.length_append]

theorem spokenFile_concat (ssrc seqNum ts : ℕ) (frames : List (List UInt8)) (frame : List UInt8) :
    spokenFile ssrc seqNum ts (frames ++ [frame]) = spokenFile ssrc seqNum ts frames ++
      [datagram ssrc (seqNum + frames.length) (ts + aacFrameSamples * frames.length) frame] := by
  induction frames generalizing seqNum ts with
  | nil => rfl
  | cons first frames induction =>
      rw [List.cons_append, spokenFile, induction, spokenFile, List.cons_append, List.length_cons,
        Nat.add_assoc seqNum, Nat.add_comm 1, Nat.mul_add, Nat.mul_one, Nat.add_assoc ts,
        Nat.add_comm aacFrameSamples]

theorem spoken_append (ssrc seqNum : ℕ) (first second : List (List (List UInt8))) :
    spoken ssrc seqNum (first ++ second) =
      spoken ssrc seqNum first ++ spoken ssrc (seqNum + first.flatten.length) second := by
  induction first generalizing seqNum with
  | nil => rfl
  | cons file first induction =>
      rw [List.cons_append, spoken, spoken, induction, List.flatten_cons, List.length_append,
        List.append_assoc, Nat.add_assoc]

/-- Files of which nothing has been spoken. -/
theorem spoken_silent (ssrc seqNum : ℕ) {files : List (List (List UInt8))}
    (silent : ∀ file ∈ files, file = []) : spoken ssrc seqNum files = [] := by
  rw [← List.length_eq_zero_iff, length_spoken, List.length_eq_zero_iff, List.flatten_eq_nil_iff]
  exact silent

/-- One frame more of the last file that has been begun. -/
theorem spoken_concat (ssrc seqNum : ℕ) (before : List (List (List UInt8)))
    (file : List (List UInt8)) (frame : List UInt8) {after : List (List (List UInt8))}
    (silent : ∀ file ∈ after, file = []) :
    spoken ssrc seqNum (before ++ (file ++ [frame]) :: after) =
      spoken ssrc seqNum (before ++ file :: after) ++
        [datagram ssrc (seqNum + (before ++ file :: after).flatten.length)
          (aacFrameSamples * file.length) frame] := by
  have rest : after.flatten = [] := List.flatten_eq_nil_iff.mpr silent
  rw [spoken_append, spoken_append, spoken, spoken, spoken_silent _ _ silent,
    spoken_silent _ _ silent, List.append_nil, List.append_nil, spokenFile_concat,
    List.append_assoc, List.flatten_append, List.flatten_cons, rest, List.append_nil,
    List.length_append, Nat.zero_add, Nat.add_assoc]

/-- The clock of a file goes with the numbers if it begins with them. -/
theorem spokenFile_eq_numbered_iff (ssrc seqNum ts : ℕ) (frames : List (List UInt8)) :
    spokenFile ssrc seqNum ts frames = numbered ssrc seqNum frames ↔
      (frames ≠ [] → ts % 2 ^ 32 = seqNum * aacFrameSamples % 2 ^ 32) := by
  induction frames generalizing seqNum ts with
  | nil => exact iff_of_true rfl fun some => absurd rfl some
  | cons frame frames induction =>
      rw [spokenFile, numbered, List.cons.injEq, induction]
      constructor
      · rintro ⟨same, -⟩ -
        have packets := Rtp.write_injective (fits_packet _ _ _ _) (fits_packet _ _ _ _) same
        exact congrArg Rtp.Packet.timestamp packets
      · intro begins
        have clock := begins (List.cons_ne_nil frame frames)
        refine ⟨?_, fun _ => ?_⟩
        · rw [datagram, datagram, packet, packet, clock]
        · rw [Nat.add_mul, Nat.one_mul, Nat.add_mod, clock, ← Nat.add_mod]

/-- Files are spoken as one stream exactly if each begins at a multiple of `2 ^ 22` frames. -/
theorem spoken_eq_numbered_iff (ssrc seqNum : ℕ) (files : List (List (List UInt8))) :
    spoken ssrc seqNum files = numbered ssrc seqNum files.flatten ↔
      ∀ before file after, files = before ++ file :: after → file ≠ [] →
        2 ^ 22 ∣ seqNum + before.flatten.length := by
  induction files generalizing seqNum with
  | nil =>
      refine iff_of_true rfl fun before file after parts => ?_
      simp at parts
  | cons file files induction =>
      have clock : 0 % 2 ^ 32 = seqNum * aacFrameSamples % 2 ^ 32 ↔ 2 ^ 22 ∣ seqNum := by
        rw [aacFrameSamples]
        omega
      rw [spoken, List.flatten_cons, numbered_append, List.append_eq_append_iff_of_size_eq_left
        (by rw [length_spokenFile, length_numbered]), spokenFile_eq_numbered_iff, clock, induction]
      constructor
      · rintro ⟨first, later⟩ before other after parts some
        cases before with
        | nil =>
            obtain ⟨rfl, rfl⟩ := List.cons.inj parts
            exact first some
        | cons front before =>
            obtain ⟨rfl, rfl⟩ := List.cons.inj parts
            rw [List.flatten_cons, List.length_append, ← Nat.add_assoc]
            exact later before other after rfl some
      · intro each
        refine ⟨fun some => each [] file files rfl some, fun before other after parts some => ?_⟩
        have divides := each (file :: before) other after (by rw [parts]; rfl) some
        rwa [List.flatten_cons, List.length_append, ← Nat.add_assoc] at divides

/-- The frames that a call has come to. -/
def Play.passed (play : Play) : List (List UInt8) :=
  (extractAdtsFrames play.audioData).take
    ((extractAdtsFrames play.audioData).length - play.frames.length)

theorem Play.passed_of_append {play : Play} {passed : List (List UInt8)}
    (whole : extractAdtsFrames play.audioData = passed ++ play.frames) : play.passed = passed := by
  rw [Play.passed, whole, List.length_append, Nat.add_sub_cancel, List.take_left]

/-- What an undisturbed run keeps. -/
structure InOrder (voice : Voice) : Prop where
  counted : voice.seqNum = voice.sent.length
  parts : ∀ play ∈ voice.plays, extractAdtsFrames play.audioData = play.passed ++ play.frames ∧
    play.tsSamples = aacFrameSamples * play.passed.length
  spoken : voice.sent.map Prod.snd = spoken voice.ssrc 0 (voice.plays.map Play.passed)
  /-- A call waits for those before it. -/
  order : voice.plays.Pairwise fun earlier later => earlier.frames ≠ [] → later.passed = []

theorem InOrder.begins (inOrder : InOrder voice) (audioData : List UInt8) :
    InOrder { voice with plays := voice.plays ++ [.start audioData] } := by
  have fresh : (Play.start audioData).passed = [] := Play.passed_of_append rfl
  refine ⟨inOrder.counted, fun play member => ?_, ?_, ?_⟩
  · rcases List.mem_append.mp member with before | now
    · exact inOrder.parts play before
    · rw [List.mem_singleton.mp now, fresh]
      exact ⟨rfl, rfl⟩
  · rw [List.map_append, List.map_singleton, fresh, spoken_append]
    exact inOrder.spoken.trans (List.append_nil _).symm
  · refine List.pairwise_append.mpr ⟨inOrder.order, List.pairwise_singleton _ _, ?_⟩
    intro earlier _ later now _
    rw [List.mem_singleton.mp now, fresh]

/-- A call that is there stands between others. -/
theorem exists_split (there : voice.plays[call]? = some play) : ∃ before after,
    voice.plays = before ++ play :: after ∧ before.length = call ∧
      ∀ another, voice.plays.set call another = before ++ another :: after := by
  obtain ⟨inside, same⟩ := List.getElem?_eq_some_iff.mp there
  refine ⟨voice.plays.take call, voice.plays.drop (call + 1), ?_, ?_, fun another => ?_⟩
  · rw [← same, List.getElem_cons_drop, List.take_append_drop]
  · rw [List.length_take, Nat.min_eq_left (Nat.le_of_lt inside)]
  · exact List.set_eq_take_append_cons_drop.trans (if_pos inside)

/-- The next frame of the only call that has any. -/
theorem InOrder.sends (inOrder : InOrder voice) (there : voice.plays[call]? = some play)
    {frame : List UInt8} {frames : List (List UInt8)} (taken : play.frames = frame :: frames)
    (alone : ∀ other ∈ voice.plays.eraseIdx call, other.frames = []) :
    InOrder { voice with
      seqNum := voice.seqNum + 1
      sent := voice.sent ++ [(call, datagram voice.ssrc voice.seqNum play.tsSamples frame)]
      plays := voice.plays.set call
        { play with frames, tsSamples := play.tsSamples + aacFrameSamples } } := by
  obtain ⟨before, after, split, place, set⟩ := exists_split there
  have ended : ∀ other ∈ before ++ after, other.frames = [] := by
    rwa [split, ← place, List.eraseIdx_append_of_length_le (Nat.le_refl _), Nat.sub_self,
      List.eraseIdx_cons_zero] at alone
  obtain ⟨whole, clock⟩ := inOrder.parts play (by simp [split])
  have order := inOrder.order
  rw [split, List.pairwise_append, List.pairwise_cons] at order
  obtain ⟨ordered, ⟨waits, behind⟩, across⟩ := order
  have silent : ∀ file ∈ after.map Play.passed, file = [] := by
    intro file member
    obtain ⟨later, inside, rfl⟩ := List.mem_map.mp member
    exact waits later inside (by rw [taken]; exact List.cons_ne_nil frame frames)
  obtain ⟨moved, moves⟩ : ∃ moved : Play, moved =
    { play with frames, tsSamples := play.tsSamples + aacFrameSamples } := ⟨_, rfl⟩
  have longer : moved.passed = play.passed ++ [frame] := by
    refine Play.passed_of_append ?_
    rw [moves]
    simp only [whole, taken, List.append_assoc, List.cons_append, List.nil_append]
  have counted : voice.seqNum = (before.map Play.passed ++
      play.passed :: after.map Play.passed).flatten.length := by
    have lengths := congrArg List.length inOrder.spoken
    rw [List.length_map, length_spoken, ← inOrder.counted, split, List.map_append,
      List.map_cons] at lengths
    exact lengths
  rw [set, ← moves]
  refine ⟨?_, fun other member => ?_, ?_, ?_⟩
  · rw [List.length_append, List.length_singleton, inOrder.counted]
  · rcases List.mem_append.mp member with first | rest
    · exact inOrder.parts other (by simp [split, first])
    rcases List.mem_cons.mp rest with rfl | last
    · rw [longer, moves]
      refine ⟨by simp only [whole, taken, List.append_assoc, List.cons_append, List.nil_append], ?_⟩
      rw [List.length_append, List.length_singleton, clock, Nat.mul_add, Nat.mul_one]
    · exact inOrder.parts other (by simp [split, last])
  · rw [List.map_append, List.map_singleton, inOrder.spoken, split, List.map_append, List.map_cons,
      List.map_append, List.map_cons, longer, spoken_concat _ _ _ _ _ silent, ← counted, clock,
      Nat.zero_add]
  · refine List.pairwise_append.mpr ⟨ordered, List.pairwise_cons.mpr ⟨fun later inside _ => ?_, behind⟩,
      fun earlier inside later rest some => ?_⟩
    · exact silent _ (List.mem_map_of_mem inside)
    · exact absurd (ended earlier (List.mem_append_left after inside)) some

theorem InOrder.step (inOrder : InOrder voice) {label : Label} (undisturbed : Undisturbed voice label)
    (steps : Step voice label next) : InOrder next := by
  cases steps with
  | talk step => exact ⟨inOrder.counted, inOrder.parts, inOrder.spoken, inOrder.order⟩
  | play audioData => exact inOrder.begins audioData
  | turn there going turns =>
      obtain ⟨connected, transport, alone⟩ := undisturbed
      cases turned_of_turn turns with
      | ended empty same => exact same ▸ inOrder
      | breaks some off after => exact absurd (off.symm.trans connected) Bool.false_ne_true
      | lost taken on unbound after => exact absurd unbound transport
      | sends taken on bound after => exact after ▸ inOrder.sends there taken alone

/-- Files that are played one after the other, with nothing in between, are sent as the bridge sends
their frames, exactly if every file begins at a multiple of `2 ^ 22` frames. -/
theorem plays_as_bridge_iff {labels : List Label} (run : machine.Run Undisturbed labels voice)
    (ended : ∀ play ∈ voice.plays, play.frames = []) {writes : List (Option (List UInt8))}
    {remaining tail : List UInt8}
    (framed : Framed (stream writes remaining)
      (voice.plays.flatMap fun play => extractAdtsFrames play.audioData) tail) :
    (bridge voice.ssrc writes remaining).map (fun after => after.session.sent) =
        .ok (voice.sent.map Prod.snd) ↔
      ∀ before play after, voice.plays = before ++ play :: after →
        extractAdtsFrames play.audioData ≠ [] →
          2 ^ 22 ∣ (before.flatMap fun play => extractAdtsFrames play.audioData).length := by
  have inOrder : InOrder voice := by
    refine run.invariant ?_ fun voice label next inOrder undisturbed steps =>
      inOrder.step undisturbed steps
    rintro voice ⟨-, -, zero, noPlays, nothing⟩
    refine ⟨by rw [zero, nothing, List.length_nil], fun play member => ?_, ?_, ?_⟩
    · rw [noPlays] at member
      cases member
    · rw [noPlays, nothing]
      rfl
    · rw [noPlays]
      exact List.Pairwise.nil
  have files : voice.plays.map Play.passed =
      voice.plays.map fun play => extractAdtsFrames play.audioData := by
    refine List.map_congr_left fun play member => ?_
    rw [(inOrder.parts play member).1, ended play member, List.append_nil]
  rw [bridge_eq]
  change Except.ok (numbered voice.ssrc 0
    (((Session.write writes).flush remaining).returned.map Prod.snd)) = _ ↔ _
  rw [returned_of_framed framed, inOrder.spoken, files, Except.ok.injEq, eq_comm,
    List.flatMap_def, spoken_eq_numbered_iff]
  constructor
  · intro each before play after split some
    have divides := each (before.map fun play => extractAdtsFrames play.audioData)
      (extractAdtsFrames play.audioData) (after.map fun play => extractAdtsFrames play.audioData)
      (by rw [split, List.map_append, List.map_cons]) some
    rwa [Nat.zero_add, ← List.flatMap_def] at divides
  · intro each before file after split some
    obtain ⟨earlier, rest, whole, rfl, others⟩ := List.map_eq_append_iff.mp split
    obtain ⟨play, later, rfl, rfl, -⟩ := List.map_eq_cons_iff.mp others
    rw [Nat.zero_add, ← List.flatMap_def]
    exact each earlier play later whole some

/-- A file is played twice: the second time its clock has begun again. -/
theorem plays_as_bridge_twice : ∃ labels voice, machine.Run Undisturbed labels voice ∧
    voice.plays = [⟨frame8, [], 1024, false⟩, ⟨frame8, [], 1024, false⟩] ∧
      (bridge voice.ssrc [some (frame8 ++ frame8)] []).map (fun after => after.session.sent) ≠
        .ok (voice.sent.map Prod.snd) := by
  have run := (run_constructed Undisturbed)
    |>.extend (.talk .connect) trivial (.talk ⟨trivial, rfl⟩)
    |>.extend (.talk .tcpOpened) trivial (.talk ⟨rfl, rfl⟩)
    |>.extend (.talk .startSent) trivial (.talk ⟨rfl, rfl⟩)
    |>.extend (.talk (.answered (.data [0xFE, 0xEF, 0x02, 0x00, 0x01, 0x00, 0xDC, 0x70]))) trivial
      (.talk ⟨rfl, rfl⟩)
    |>.extend (.talk .udpBound) trivial (.talk ⟨rfl, rfl⟩)
    |>.extend (.play frame8) trivial (.play frame8)
    |>.extend (.turn 0) ⟨rfl, Option.some_ne_none 0, by decide⟩ (.turn rfl rfl rfl)
    |>.extend (.play frame8) trivial (.play frame8)
    |>.extend (.turn 1) ⟨rfl, Option.some_ne_none 0, by decide⟩ (.turn rfl rfl rfl)
  refine ⟨_, _, run, rfl, fun same => ?_⟩
  have framed : Framed (stream [some (frame8 ++ frame8)] []) [frame8, frame8] [] := framed_frame8 2
  have divides := (plays_as_bridge_iff run (by decide) framed).mp same [⟨frame8, [], 1024, false⟩]
    ⟨frame8, [], 1024, false⟩ [] rfl (by decide)
  exact absurd divides (by decide)

end VoiceStream
end Reference
end AqaraLanLink
