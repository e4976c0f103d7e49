import AqaraLanLink.Comparison.Handshake
import AqaraLanLink.Reference.Listening

/-!
# The two sessions

What the port and the reference hear in the session frames of one byte stream.  The reference stops
at the first frame that it cannot take, and the port goes on behind it.
-/

namespace AqaraLanLink
namespace Comparison

open Library

section

variable (ciphers : Ciphers) (deviceKey key : List UInt8)
variable (loads parseJson : List UInt8 → Except String Json)

/-- The message of a frame that `receive` returns. -/
def received (frame : Port.Frame) : Option Json :=
  if frame.type ≠ Port.msgTypeSession then none
  else
    match Port.Tunnel.readMessage ciphers.aesCbcDecrypt loads key frame with
    | .ok (.object fields) => some (.object fields)
    | _ => none

/-- The message of a frame that the loop of `listen` hands on. -/
def accepted (frame : Port.Frame) : Option Json :=
  (received ciphers key loads frame).filter Reference.LANLinkClient.keyed

/-- The message of a session frame that the port can read. -/
def said (frame : Port.Frame) : Option Json :=
  if frame.type ≠ Port.msgTypeSession then none
  else (Port.Tunnel.readMessage ciphers.aesCbcDecrypt parseJson key frame).toOption

/-- The messages of the frames before the first one at which the loop of `listen` ends. -/
def acceptedAll : List Port.Frame → List Json
  | [] => []
  | frame :: frames =>
      match accepted ciphers key loads frame with
      | some message => message :: acceptedAll frames
      | none => []

/-- The message that an effect carries to a caller or to the listeners. -/
def carried : Port.Effect → Option Json
  | .resolved _ message => some message
  | .message message => some message
  | _ => none

/-! ## The reference -/

/-- A frame that `_recv_frame` has taken is read as it was. -/
theorem receive_of_cons {buffer : List UInt8} {reads : List (List UInt8)} {frame : Port.Frame}
    {frames : List Port.Frame} {ending : Except String (List UInt8)}
    (splits : Splits Port.parseFrame (buffer ++ reads.flatten) (frame :: frames) ending)
    (nonempty : [] ∉ reads) :
    ∃ (rest : List UInt8) (later : List (List UInt8)),
      Splits Port.parseFrame (rest ++ later.flatten) frames ending ∧ [] ∉ later ∧
        ∀ fields rest' later',
          Reference.EncryptedTunnel.receive ciphers deviceKey loads key buffer reads =
              .message fields rest' later' ↔
            received ciphers key loads frame = some (.object fields) ∧
              rest' = rest ∧ later' = later := by
  obtain ⟨rest, later, splits', nonempty', taken⟩ :=
    recvFrame_of_cons ciphers deviceKey (some key) splits nonempty
  refine ⟨rest, later, splits', nonempty', fun fields rest' later' => ?_⟩
  rw [Reference.EncryptedTunnel.receive, taken, received]
  by_cases session : frame.type = Port.msgTypeSession
  · have selected : Reference.EncryptedTunnel.selectDecryptKey deviceKey (some key) frame.type =
        .ok key := if_pos session
    rw [selected, ok_bind, if_neg (not_not.mpr session), Port.Tunnel.readMessage]
    cases ciphers.aesCbcDecrypt key frame.ciphertext with
    | error error =>
        refine iff_of_false (fun read => ?_) (fun stands => ?_)
        · cases read
        · cases stands.1
    | ok plaintext =>
        have session' : ¬ frame.type ≠ Reference.msgTypeSession := not_not.mpr session
        simp only [ok_bind, pure, Except.pure, if_neg session']
        cases loads plaintext with
        | error error =>
            refine iff_of_false (fun read => ?_) (fun stands => ?_)
            · cases read
            · cases stands.1
        | ok message =>
            cases message with
            | object members =>
                simp only [Reference.EncryptedTunnel.Reading.message.injEq, Option.some.injEq,
                  Json.object.injEq, eq_comm]
            | _ =>
                refine iff_of_false (fun read => ?_) (fun stands => ?_)
                · cases read
                · cases stands.1
  · rw [if_pos session]
    refine iff_of_false (fun read => ?_) (fun stands => by cases stands.1)
    split at read
    · cases read
    · cases read
    · rename_i taken
      rw [selectDecryptKey_of_ne session, ok_bind] at taken
      obtain ⟨_, -, taken⟩ := bind_eq_ok_iff.mp taken
      cases taken
      rw [if_pos (show frame.type ≠ Reference.msgTypeSession from session)] at read
      cases read

theorem received_of_accepted {frame : Port.Frame} {message : Json}
    (taken : accepted ciphers key loads frame = some message) :
    received ciphers key loads frame = some message ∧
      Reference.LANLinkClient.keyed message = true :=
  Option.filter_eq_some_iff.mp taken

/-- `listen` hands on the messages in front of the first frame at which it ends. -/
theorem listen_eq {buffer : List UInt8} {reads : List (List UInt8)} {frames : List Port.Frame}
    {ending : Except String (List UInt8)}
    (splits : Splits Port.parseFrame (buffer ++ reads.flatten) frames ending)
    (nonempty : [] ∉ reads) :
    Reference.EncryptedTunnel.listen ciphers deviceKey loads key buffer reads =
      acceptedAll ciphers key loads frames := by
  induction frames generalizing buffer reads with
  | nil =>
      apply Reference.EncryptedTunnel.listen_of_none
      intro fields rest later read
      exfalso
      rw [Reference.EncryptedTunnel.receive] at read
      split at read
      · cases read
      · cases read
      · exact recvFrame_of_nil ciphers deviceKey (some key) splits nonempty _ ‹_›
  | cons frame frames induction =>
      obtain ⟨rest, later, splits', nonempty', read_iff⟩ :=
        receive_of_cons ciphers deviceKey key loads splits nonempty
      rw [acceptedAll]
      cases taken : accepted ciphers key loads frame with
      | none =>
          apply Reference.EncryptedTunnel.listen_of_none
          intro fields rest' later' read
          rw [accepted, ((read_iff fields rest' later').mp read).1, Option.filter_eq_none_iff]
            at taken
          exact Bool.eq_false_of_not_eq_true (taken _ rfl)
      | some message =>
          obtain ⟨returned, keyed⟩ := received_of_accepted ciphers key loads taken
          have object : ∃ fields, message = .object fields := by
            rw [received] at returned
            split at returned
            · cases returned
            · split at returned
              · cases returned
                exact ⟨_, rfl⟩
              · cases returned
          obtain ⟨fields, rfl⟩ := object
          rw [Reference.EncryptedTunnel.listen_of_message ciphers deviceKey loads
            ((read_iff fields rest later).mpr ⟨returned, rfl, rfl⟩) keyed,
            induction splits' nonempty']

/-! ## The port -/

section

variable {World : Type} {listener : World → Json → Except String World}
variable {tunnel tunnel' : Port.Tunnel} {world world' : World} {effect : Port.Effect}

/-- `onFrame` keeps the session key, and its effect carries what the frame says. -/
theorem carried_of_onFrame (opened : tunnel.sessionKey = some key) {frame : Port.Frame}
    (handled : tunnel.onFrame ciphers.aesCbcDecrypt parseJson frame = .ok (tunnel', effect)) :
    tunnel'.sessionKey = some key ∧ carried effect = said ciphers key parseJson frame := by
  by_cases session : frame.type = Port.msgTypeSession
  · rw [Port.Tunnel.onFrame_of_session _ _ opened session] at handled
    rw [said, if_neg (not_not.mpr session)]
    cases read : Port.Tunnel.readMessage ciphers.aesCbcDecrypt parseJson key frame with
    | error error =>
        rw [read] at handled
        cases handled
        exact ⟨opened, rfl⟩
    | ok message =>
        rw [read] at handled
        have present : message ≠ .null := by
          rintro rfl
          cases handled
        simp only [Port.Tunnel.dispatch_of_ne_null present] at handled
        split at handled
        · cases handled
          exact ⟨opened, rfl⟩
        · cases handled
          exact ⟨opened, rfl⟩
  · rw [Port.Tunnel.onFrame_of_handshake _ _ (.inr session), Port.Tunnel.onHandshakeFrame] at handled
    rw [said, if_pos session]
    split at handled
    · cases handled
      exact ⟨opened, rfl⟩
    · cases handled
      exact ⟨opened, rfl⟩

theorem carried_of_handOver (opened : tunnel.sessionKey = some key) {frames : List Port.Frame}
    {effects : List Port.Effect}
    (returned : (Port.Tunnel.handOver ciphers.aesCbcDecrypt parseJson listener tunnel world
      frames).2 = .ok (tunnel', world', effects)) :
    effects.filterMap carried = frames.filterMap (said ciphers key parseJson) := by
  induction frames generalizing tunnel world effects with
  | nil =>
      cases returned
      rfl
  | cons frame frames induction =>
      rw [Port.Tunnel.handOver] at returned
      cases handled : tunnel.handle ciphers.aesCbcDecrypt parseJson listener world frame with
      | error thrown =>
          rw [handled] at returned
          cases returned
      | ok done =>
          obtain ⟨next, world'', effect⟩ := done
          rw [handled] at returned
          obtain ⟨⟨_, _, others⟩, later, done⟩ := bind_eq_ok_iff.mp returned
          cases done
          obtain ⟨⟨_, _⟩, onFrame, rest⟩ := bind_eq_ok_iff.mp handled
          obtain ⟨_, -, done⟩ := bind_eq_ok_iff.mp rest
          cases done
          obtain ⟨opened', first⟩ := carried_of_onFrame ciphers key parseJson opened onFrame
          rw [List.filterMap_cons, List.filterMap_cons, first, induction opened' later]

/-- What the chunks of a stream carry, when nothing throws. -/
theorem carried_of_feed (connected : tunnel.hasSocket = true)
    (opened : tunnel.sessionKey = some key) (waits : Port.parseFrame tunnel.buffer = .ok none)
    {chunks : List (List UInt8)} {effects : List Port.Effect}
    (returned : (Port.Tunnel.feed ciphers.aesCbcDecrypt parseJson listener tunnel world
      chunks).outcome = .ok (tunnel', world', effects)) {frames : List Port.Frame}
    {ending : Except String (List UInt8)}
    (splits : Splits Port.parseFrame (tunnel.buffer ++ chunks.flatten) frames ending) :
    effects.filterMap carried = frames.filterMap (said ciphers key parseJson) := by
  cases ended : (Port.Tunnel.handOver ciphers.aesCbcDecrypt parseJson listener tunnel world
      frames).2 with
  | error thrown =>
      obtain ⟨buffer, rest, tail, -, -, fed⟩ :=
        Port.Tunnel.feed_of_throws _ _ _ connected waits splits ended
      rw [fed] at returned
      cases returned
  | ok done =>
      obtain ⟨last, world'', others⟩ := done
      have heard := carried_of_handOver ciphers key parseJson opened ended
      cases ending with
      | ok left =>
          rw [Port.Tunnel.feed_of_waits _ _ _ connected waits splits ended] at returned
          cases returned
          exact heard
      | error error =>
          obtain ⟨buffer, fed⟩ := Port.Tunnel.feed_of_stops _ _ _ connected waits splits ended
          rw [fed] at returned
          cases returned
          rw [List.filterMap_append, heard]
          exact List.append_nil _

end

/-! ## Both -/

/-- The two readers of JSON make the same of the text of a frame, or both refuse it. -/
def ReadAlike (frame : Port.Frame) : Prop :=
  ∀ text, ciphers.aesCbcDecrypt key frame.ciphertext = .ok text →
    (loads text).toOption = (parseJson text).toOption

/-- Behind a frame at which the loop of `listen` ends, and in it, the port can read nothing. -/
def Uninterrupted (frames : List Port.Frame) : Prop :=
  ∀ front frame rest, frames = front ++ frame :: rest → accepted ciphers key loads frame = none →
    ∀ other ∈ frame :: rest, said ciphers key parseJson other = none

variable {ciphers key loads parseJson}

theorem said_of_accepted {frame : Port.Frame} (alike : ReadAlike ciphers key loads parseJson frame)
    {message : Json} (taken : accepted ciphers key loads frame = some message) :
    said ciphers key parseJson frame = some message := by
  have taken := (received_of_accepted ciphers key loads taken).1
  rw [received] at taken
  rw [said]
  split at taken
  · cases taken
  · rename_i session
    rw [if_neg session]
    rw [Port.Tunnel.readMessage] at taken ⊢
    cases read : ciphers.aesCbcDecrypt key frame.ciphertext with
    | error error =>
        rw [read] at taken
        cases taken
    | ok text =>
        rw [read] at taken
        rw [ok_bind] at taken ⊢
        rw [← alike text read]
        split at taken
        · rename_i parsed
          cases taken
          rw [parsed]
          rfl
        · cases taken

theorem prefix_acceptedAll {frames : List Port.Frame}
    (alike : ∀ frame ∈ frames, ReadAlike ciphers key loads parseJson frame) :
    acceptedAll ciphers key loads frames <+: frames.filterMap (said ciphers key parseJson) := by
  induction frames with
  | nil => exact List.prefix_rfl
  | cons frame frames induction =>
      obtain ⟨first, others⟩ := List.forall_mem_cons.mp alike
      rw [acceptedAll]
      split
      · rename_i message taken
        rw [List.filterMap_cons, said_of_accepted first taken]
        exact List.cons_prefix_cons.mpr ⟨rfl, induction others⟩
      · exact List.nil_prefix

theorem acceptedAll_eq_iff {frames : List Port.Frame}
    (alike : ∀ frame ∈ frames, ReadAlike ciphers key loads parseJson frame) :
    acceptedAll ciphers key loads frames = frames.filterMap (said ciphers key parseJson) ↔
      Uninterrupted ciphers key loads parseJson frames := by
  induction frames with
  | nil =>
      refine ⟨fun _ front frame rest parts => ?_, fun _ => rfl⟩
      exact absurd parts.symm (List.append_ne_nil_of_right_ne_nil _ (List.cons_ne_nil _ _))
  | cons frame frames induction =>
      obtain ⟨first, others⟩ := List.forall_mem_cons.mp alike
      rw [acceptedAll]
      cases taken : accepted ciphers key loads frame with
      | some message =>
          rw [List.filterMap_cons, said_of_accepted first taken]
          simp only [List.cons.injEq, true_and, induction others]
          constructor
          · intro later front other rest parts refused
            cases front with
            | nil =>
                obtain ⟨rfl, rfl⟩ := List.cons.inj parts
                exact nomatch taken.symm.trans refused
            | cons head front => exact later front other rest (List.cons.inj parts).2 refused
          · intro whole front other rest parts refused
            exact whole (frame :: front) other rest (congrArg (frame :: ·) parts) refused
      | none =>
          rw [eq_comm, List.filterMap_eq_nil_iff]
          constructor
          · intro silent front other rest parts _ later member
            exact silent later (parts ▸ List.mem_append_right front member)
          · exact fun whole => whole [] frame frames rfl taken

end

/-- The messages that the reference hands on from a stream begin those that the port reads from it,
whatever the chunks, and are all of them exactly when no frame that the port can read stands at or
behind one at which the reference ends. -/
theorem sessions_agree_iff (ciphers : Ciphers) (deviceKey key : List UInt8)
    (loads parseJson : List UInt8 → Except String Json) {World : Type}
    (listener : World → Json → Except String World) {tunnel tunnel' : Port.Tunnel}
    {world world' : World} {chunks reads : List (List UInt8)} {buffer : List UInt8}
    {effects : List Port.Effect} (connected : tunnel.hasSocket = true)
    (opened : tunnel.sessionKey = some key) (waits : Port.parseFrame tunnel.buffer = .ok none)
    (stream : buffer ++ reads.flatten = tunnel.buffer ++ chunks.flatten) (nonempty : [] ∉ reads)
    (alike : ∀ frame ∈ (Port.splitFrames (buffer ++ reads.flatten)).1,
      ReadAlike ciphers key loads parseJson frame)
    (returned : (Port.Tunnel.feed ciphers.aesCbcDecrypt parseJson listener tunnel world
      chunks).outcome = .ok (tunnel', world', effects)) :
    Reference.EncryptedTunnel.listen ciphers deviceKey loads key buffer reads <+:
        effects.filterMap carried ∧
      (Reference.EncryptedTunnel.listen ciphers deviceKey loads key buffer reads =
          effects.filterMap carried ↔
        Uninterrupted ciphers key loads parseJson
          (Port.splitFrames (buffer ++ reads.flatten)).1) := by
  have splits := splits_splitFrames (buffer ++ reads.flatten)
  have heard := carried_of_feed ciphers key parseJson connected opened waits returned
    (stream ▸ splits)
  rw [listen_eq ciphers deviceKey key loads splits nonempty, heard, ← stream]
  exact ⟨prefix_acceptedAll alike, acceptedAll_eq_iff alike⟩

/-- A session frame with an empty object, and a reader that gives it. -/
def emptyMessage : Port.Frame := ⟨Port.msgTypeSession, [0x7B, 0x7D]⟩

def readEmpty (_ : List UInt8) : Except String Json := .ok (.object [])

/-- A stream of one message, which the port gets whole and the reference byte by byte. -/
theorem sessions_agree_emptyMessage :
    ∃ effects : List Port.Effect,
      Reference.EncryptedTunnel.listen plainCiphers [] readEmpty (List.replicate 16 7) []
          (emptyMessage.bytes.map fun byte => [byte]) <+: effects.filterMap carried ∧
      (Reference.EncryptedTunnel.listen plainCiphers [] readEmpty (List.replicate 16 7) []
          (emptyMessage.bytes.map fun byte => [byte]) = effects.filterMap carried ↔
        Uninterrupted plainCiphers (List.replicate 16 7) readEmpty readEmpty
          (Port.splitFrames ([] ++ (emptyMessage.bytes.map fun byte => [byte]).flatten)).1) := by
  have sendable : ∀ frame ∈ [emptyMessage], frame.Sendable :=
    List.forall_mem_singleton.mpr ⟨by decide, by decide⟩
  have splits : Splits Port.parseFrame
      (Port.Tunnel.openTunnel.buffer ++ [emptyMessage.bytes].flatten) [emptyMessage] (.ok []) :=
    Port.splits_bytes sendable Port.splits_nil
  have handed : (Port.Tunnel.handOver plainCiphers.aesCbcDecrypt readEmpty
      (fun world _ => .ok world) Port.Tunnel.openTunnel () [emptyMessage]).2 =
        .ok (Port.Tunnel.openTunnel, (), [.message (.object [])]) := rfl
  have fed := Port.Tunnel.feed_of_waits _ _ _ rfl rfl splits handed
  have returned := congrArg Port.Tunnel.Delivery.outcome fed
  refine ⟨[.message (.object [])], sessions_agree_iff plainCiphers [] (List.replicate 16 7)
    readEmpty readEmpty (fun world _ => .ok world) rfl rfl rfl ?_ ?_ (fun _ _ _ _ => rfl) returned⟩
  · simp [Port.Tunnel.openTunnel, ← List.flatMap_def]
  · simp

end Comparison
end AqaraLanLink
