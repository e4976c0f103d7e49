import Mathlib.Data.List.GetD
import AqaraLanLink.Library.Fallible
import AqaraLanLink.Library.Framing
import AqaraLanLink.Port.Resilience

/-!
# Frames out of a byte stream

`encodeFrame` against `parseFrame`, and `onData` fed with a stream in chunks of any size.  What is
handed to `onFrame` does not depend on the cuts.
-/

namespace AqaraLanLink
namespace Port

open Library

/-! ## One frame -/

/-- A frame that `encodeFrame` can write and `parseFrame` takes. -/
structure Frame.Sendable (frame : Frame) : Prop where
  /-- The type is two bytes wide. -/
  type : frame.type < 65536
  /-- The ciphertext is not too large. -/
  fits : frame.ciphertext.length ≤ maxFrameCtLen

/-- The bytes of a frame on the wire. -/
def Frame.bytes (frame : Frame) : List UInt8 :=
  [0xFF, 0xFE] ++ [.ofNat (frame.type / 256), .ofNat (frame.type % 256)] ++
    [.ofNat (frame.ciphertext.length / 65536 / 256), .ofNat (frame.ciphertext.length / 65536 % 256),
      .ofNat (frame.ciphertext.length % 65536 / 256), .ofNat (frame.ciphertext.length % 65536 % 256)] ++
    frame.ciphertext ++
    [.ofNat (crc16Ccitt frame.ciphertext / 256), .ofNat (crc16Ccitt frame.ciphertext % 256)]

theorem crc16Bits_lt (bits crc : ℕ) (small : bits = 0 → crc < 65536) : crc16Bits bits crc < 65536 := by
  induction bits generalizing crc with
  | zero => exact small rfl
  | succ bits induction =>
      rw [crc16Bits]
      apply induction
      intro _
      split
      · exact Nat.lt_of_le_of_lt Nat.and_le_right (by omega)
      · exact Nat.lt_of_le_of_lt Nat.and_le_right (by omega)

theorem crc16Ccitt_lt (data : List UInt8) : crc16Ccitt data < 65536 := by
  have folded : ∀ crc < 65536, data.foldl
      (fun crc byte => crc16Bits 8 (crc ^^^ (byte.toNat <<< 8))) crc < 65536 := by
    induction data with
    | nil => exact fun _ small => small
    | cons byte data induction =>
        exact fun crc _ => induction _ (crc16Bits_lt 8 _ (by omega))
  exact Nat.xor_lt_two_pow (n := 16) (folded _ (by omega)) (by omega)

theorem encodeFrame_eq {frame : Frame} (sendable : frame.Sendable) :
    encodeFrame frame.type frame.ciphertext = some frame.bytes := by
  have length : frame.ciphertext.length ≤ 256 * 1024 := sendable.fits
  have high : frame.ciphertext.length / 65536 < 65536 := by omega
  have low : frame.ciphertext.length % 65536 < 65536 := by omega
  have whole : frame.ciphertext.length < 4294967296 := by omega
  simp only [encodeFrame, writeUInt32BE, writeUInt16BE, if_pos sendable.type, if_pos whole,
    if_pos high, if_pos low, if_pos (crc16Ccitt_lt frame.ciphertext)]
  rfl

theorem readUInt16BE_append {data : List UInt8} {offset : ℕ} (inside : offset + 1 < data.length)
    (more : List UInt8) : readUInt16BE (data ++ more) offset = readUInt16BE data offset := by
  simp only [readUInt16BE, List.getD_append _ _ _ _ (show offset < data.length by omega),
    List.getD_append _ _ _ _ inside]

theorem readUInt32BE_append {data : List UInt8} {offset : ℕ} (inside : offset + 3 < data.length)
    (more : List UInt8) : readUInt32BE (data ++ more) offset = readUInt32BE data offset := by
  simp only [readUInt32BE]
  rw [readUInt16BE_append (by omega), readUInt16BE_append (by omega)]

theorem readUInt16BE_write {value : ℕ} (small : value < 65536) (before after : List UInt8) :
    readUInt16BE (before ++ ([.ofNat (value / 256), .ofNat (value % 256)] ++ after)) before.length =
      value := by
  have high : value / 256 < 256 := by omega
  have low : value % 256 < 256 := by omega
  simp [readUInt16BE, UInt8.toNat_ofNat', Nat.mod_eq_of_lt high,
    Nat.mod_eq_of_lt low]
  omega

/-- `parseFrame` on a buffer that holds a header. -/
theorem parseFrame_of_header {data : List UInt8} (header : frameHeaderLen ≤ data.length) :
    parseFrame data =
      if data.take 2 ≠ [0xFF, 0xFE] then
        .error s!"Bad magic: expected FF FE, got {hexBytes (data.take 2)}"
      else if maxFrameCtLen < readUInt32BE data 4 then
        .error s!"Frame ciphertext length {readUInt32BE data 4} is too large (max {maxFrameCtLen})"
      else if data.length < frameHeaderLen + readUInt32BE data 4 + frameTrailerLen then .ok none
      else if readUInt16BE data (frameHeaderLen + readUInt32BE data 4) ≠
          crc16Ccitt ((data.drop frameHeaderLen).take (readUInt32BE data 4)) then
        .error s!"Bad CRC: expected {hex (crc16Ccitt ((data.drop frameHeaderLen).take
          (readUInt32BE data 4)))}, got {hex (readUInt16BE data (frameHeaderLen + readUInt32BE data 4))}"
      else .ok (some (⟨readUInt16BE data 2, (data.drop frameHeaderLen).take (readUInt32BE data 4)⟩,
        data.drop (frameHeaderLen + readUInt32BE data 4 + frameTrailerLen))) := by
  rw [parseFrame, if_neg (Nat.not_lt.mpr header)]

/-- What `parseFrame` has decided about a buffer it keeps when more input follows. -/
theorem parseFrame_append {data : List UInt8} (decided : parseFrame data ≠ .ok none)
    (more : List UInt8) :
    parseFrame (data ++ more) =
      (parseFrame data).map (Option.map fun parsed => (parsed.1, parsed.2 ++ more)) := by
  have header : frameHeaderLen ≤ data.length := by
    by_contra short
    exact decided (if_pos (Nat.not_le.mp short))
  have eight : 8 ≤ data.length := header
  have longer : frameHeaderLen ≤ (data ++ more).length := by
    rw [List.length_append]
    omega
  rw [parseFrame_of_header longer, parseFrame_of_header header]
  rw [parseFrame_of_header header] at decided
  rw [List.take_append_of_le_length (by omega), readUInt16BE_append (show 2 + 1 < data.length by omega),
    readUInt32BE_append (by omega)]
  split
  · rfl
  · split
    · rfl
    · rename_i magic small
      rw [if_neg magic, if_neg small] at decided
      split at decided
      · exact absurd rfl decided
      · rename_i complete
        have whole : 8 + readUInt32BE data 4 + 2 ≤ data.length := Nat.not_lt.mp complete
        have whole' : ¬ (data ++ more).length < frameHeaderLen + readUInt32BE data 4 +
            frameTrailerLen := by
          rw [List.length_append]
          simp only [frameHeaderLen, frameTrailerLen]
          omega
        have body : ((data ++ more).drop frameHeaderLen).take (readUInt32BE data 4) =
            (data.drop frameHeaderLen).take (readUInt32BE data 4) := by
          rw [List.drop_append_of_le_length header, List.take_append_of_le_length]
          rw [List.length_drop]
          simp only [frameHeaderLen]
          omega
        have trailer : readUInt16BE (data ++ more) (frameHeaderLen + readUInt32BE data 4) =
            readUInt16BE data (frameHeaderLen + readUInt32BE data 4) := by
          apply readUInt16BE_append
          simp only [frameHeaderLen]
          omega
        have rest : (data ++ more).drop (frameHeaderLen + readUInt32BE data 4 + frameTrailerLen) =
            data.drop (frameHeaderLen + readUInt32BE data 4 + frameTrailerLen) ++ more :=
          List.drop_append_of_le_length whole
        rw [if_neg whole', if_neg complete, body, trailer, rest]
        split
        · rfl
        · rfl

/-- `parseFrame` reads a stream the same however it is cut. -/
theorem incremental_parseFrame : Incremental parseFrame where
  nil := rfl
  shrinks := length_lt_of_parseFrame
  record_append parsed more := by
    rw [parseFrame_append (by rw [parsed]; exact nofun), parsed]
    rfl
  error_append parsed more := by
    rw [parseFrame_append (by rw [parsed]; exact nofun), parsed]
    rfl

/-- A frame that is taken off a buffer is all there, and what is left follows it. -/
theorem whole_of_parseFrame {data rest : List UInt8} {frame : Frame}
    (parsed : parseFrame data = .ok (some (frame, rest))) :
    frameHeaderLen + readUInt32BE data 4 + frameTrailerLen ≤ data.length ∧
      rest = data.drop (frameHeaderLen + readUInt32BE data 4 + frameTrailerLen) := by
  have header : frameHeaderLen ≤ data.length := by
    by_contra short
    rw [parseFrame, if_pos (Nat.not_le.mp short)] at parsed
    cases parsed
  rw [parseFrame_of_header header] at parsed
  split at parsed
  · cases parsed
  · split at parsed
    · cases parsed
    · split at parsed
      · cases parsed
      · rename_i complete
        split at parsed
        · cases parsed
        · cases parsed
          exact ⟨Nat.not_lt.mp complete, rfl⟩

/-- `parseFrame` finds the end of a frame within the frame. -/
theorem delimited_parseFrame : Delimited parseFrame where
  head := by
    intro data frame rest parsed
    obtain ⟨complete, tail⟩ := whole_of_parseFrame parsed
    generalize total_eq : frameHeaderLen + readUInt32BE data 4 + frameTrailerLen = total at *
    have length : (data.take total).length = total := List.length_take_of_le complete
    have joined : data = data.take total ++ rest := by rw [tail, List.take_append_drop]
    have ten : 10 ≤ total := by
      simp only [frameHeaderLen, frameTrailerLen] at total_eq
      omega
    have same : readUInt32BE data 4 = readUInt32BE (data.take total) 4 := by
      conv_lhs => rw [joined]
      exact readUInt32BE_append (by omega) rest
    have decided : parseFrame (data.take total) ≠ .ok none := by
      rw [parseFrame_of_header (by rw [length]; simp only [frameHeaderLen]; omega), ← same,
        if_neg (show ¬ (data.take total).length < frameHeaderLen + readUInt32BE data 4 +
          frameTrailerLen by omega)]
      intro waits
      split at waits
      · cases waits
      · split at waits
        · cases waits
        · split at waits
          · cases waits
          · cases waits
    have parsed' := parseFrame_append decided rest
    rw [← joined, parsed] at parsed'
    cases first : parseFrame (data.take total) with
    | error error =>
        rw [first] at parsed'
        cases parsed'
    | ok result =>
        rw [first] at parsed'
        cases result with
        | none => exact absurd first decided
        | some taken =>
            obtain ⟨frame', rest'⟩ := taken
            have pair := Option.some.inj (Except.ok.inj parsed')
            obtain ⟨rfl, nothing⟩ := Prod.mk.inj pair
            have empty : rest' = [] := List.self_eq_append_left.mp nothing
            exact ⟨data.take total, joined, by rw [first, empty]⟩

/-- The header of a frame on the wire. -/
def frameHeader (type length : ℕ) : List UInt8 :=
  [0xFF, 0xFE, .ofNat (type / 256), .ofNat (type % 256),
    .ofNat (length / 65536 / 256), .ofNat (length / 65536 % 256),
    .ofNat (length % 65536 / 256), .ofNat (length % 65536 % 256)]

theorem Frame.bytes_append (frame : Frame) (rest : List UInt8) :
    frame.bytes ++ rest = frameHeader frame.type frame.ciphertext.length ++
      (frame.ciphertext ++ ([.ofNat (crc16Ccitt frame.ciphertext / 256),
        .ofNat (crc16Ccitt frame.ciphertext % 256)] ++ rest)) := by
  simp only [Frame.bytes, frameHeader, List.append_assoc]
  rfl

/-- `parseFrame` on a frame that is all there, whatever its last two bytes are. -/
theorem parseFrame_whole {type : ℕ} {ciphertext : List UInt8}
    (sendable : Frame.Sendable ⟨type, ciphertext⟩) (high low : UInt8) (rest : List UInt8) :
    parseFrame (frameHeader type ciphertext.length ++ (ciphertext ++ ([high, low] ++ rest))) =
      if high.toNat * 256 + low.toNat ≠ crc16Ccitt ciphertext then
        .error s!"Bad CRC: expected {hex (crc16Ccitt ciphertext)}, got {hex
          (high.toNat * 256 + low.toNat)}"
      else .ok (some (⟨type, ciphertext⟩, rest)) := by
  have fits : ciphertext.length ≤ 256 * 1024 := sendable.fits
  have eight : (frameHeader type ciphertext.length).length = 8 := rfl
  generalize parts : frameHeader type ciphertext.length ++
    (ciphertext ++ ([high, low] ++ rest)) = data
  have length : data.length = 8 + (ciphertext.length + (2 + rest.length)) := by
    rw [← parts, List.length_append, List.length_append, List.length_append, eight]
    rfl
  have magic : data.take 2 = [0xFF, 0xFE] := by
    rw [← parts]
    rfl
  have type_eq : readUInt16BE data 2 = type := by
    rw [← parts]
    exact readUInt16BE_write sendable.type [0xFF, 0xFE] _
  have length_eq : readUInt32BE data 4 = ciphertext.length := by
    have first := readUInt16BE_write (show ciphertext.length / 65536 < 65536 by omega)
      [0xFF, 0xFE, .ofNat (type / 256), .ofNat (type % 256)]
    have second := readUInt16BE_write (show ciphertext.length % 65536 < 65536 by omega)
      [0xFF, 0xFE, .ofNat (type / 256), .ofNat (type % 256),
        .ofNat (ciphertext.length / 65536 / 256), .ofNat (ciphertext.length / 65536 % 256)]
    rw [← parts, readUInt32BE]
    refine Eq.trans (congrArg₂ (fun high low => high * 65536 + low) (first _) (second _)) ?_
    omega
  have body : (data.drop 8).take ciphertext.length = ciphertext := by
    rw [← parts, ← eight, List.drop_left, List.take_left]
  have trailer : readUInt16BE data (8 + ciphertext.length) = high.toNat * 256 + low.toNat := by
    have inside : (frameHeader type ciphertext.length ++ ciphertext).length =
        8 + ciphertext.length := by
      rw [List.length_append, eight]
    rw [← parts, ← List.append_assoc, ← inside, readUInt16BE, List.getD_append_right _ _ _ _
      (Nat.le_refl _), List.getD_append_right _ _ _ _ (Nat.le_succ _), Nat.sub_self,
      Nat.succ_sub (Nat.le_refl _), Nat.sub_self]
    rfl
  have tail : data.drop (8 + ciphertext.length + 2) = rest := by
    rw [← parts, ← eight, Nat.add_assoc, ← List.drop_drop, List.drop_left, ← List.drop_drop,
      List.drop_left]
    rfl
  rw [parseFrame_of_header (by rw [length]; exact Nat.le_add_right _ _)]
  simp only [length_eq, frameHeaderLen, frameTrailerLen, magic, body, trailer, type_eq, tail]
  rw [if_neg (by simp), if_neg (Nat.not_lt.mpr sendable.fits), if_neg (by omega)]

/-- `parseFrame` takes a frame that has been sent off the head of a buffer. -/
theorem parseFrame_bytes {frame : Frame} (sendable : frame.Sendable) (rest : List UInt8) :
    parseFrame (frame.bytes ++ rest) = .ok (some (frame, rest)) := by
  have small := crc16Ccitt_lt frame.ciphertext
  have trailer : (UInt8.ofNat (crc16Ccitt frame.ciphertext / 256)).toNat * 256 +
      (UInt8.ofNat (crc16Ccitt frame.ciphertext % 256)).toNat = crc16Ccitt frame.ciphertext := by
    rw [UInt8.toNat_ofNat', UInt8.toNat_ofNat']
    omega
  rw [frame.bytes_append, parseFrame_whole sendable, if_neg (not_not.mpr trailer)]

/-! ## A stream of frames -/

/-- The bytes of frames one after the other, unless one of them cannot be written. -/
def encodeFrames (frames : List Frame) : Option (List UInt8) := do
  let pieces ← frames.mapM fun frame => encodeFrame frame.type frame.ciphertext
  pure pieces.flatten

theorem encodeFrames_eq {frames : List Frame} (sendable : ∀ frame ∈ frames, frame.Sendable) :
    encodeFrames frames = some (frames.flatMap Frame.bytes) := by
  have pieces : frames.mapM (fun frame => encodeFrame frame.type frame.ciphertext) =
      some (frames.map Frame.bytes) := by
    induction frames with
    | nil => rfl
    | cons frame frames induction =>
        obtain ⟨first, others⟩ := List.forall_mem_cons.mp sendable
        rw [List.mapM_cons, encodeFrame_eq first, induction others]
        rfl
  rw [encodeFrames, pieces, List.flatMap_def]
  rfl

/-- A stream of frames splits into them, whatever follows. -/
theorem splits_nil : Splits parseFrame [] [] (.ok []) := .wait rfl

theorem splits_bytes {frames : List Frame} (sendable : ∀ frame ∈ frames, frame.Sendable)
    {tail : List UInt8} {ending : Except String (List UInt8)}
    (ends : Splits parseFrame tail [] ending) :
    Splits parseFrame (frames.flatMap Frame.bytes ++ tail) frames ending := by
  induction frames with
  | nil => exact ends
  | cons frame frames induction =>
      obtain ⟨first, others⟩ := List.forall_mem_cons.mp sendable
      rw [List.flatMap_cons, List.append_assoc]
      exact .take (parseFrame_bytes first _) (induction others)

theorem splitFrames_of_splits {data : List UInt8} {frames : List Frame}
    {ending : Except String (List UInt8)} (splits : Splits parseFrame data frames ending) :
    splitFrames data = (frames, ending) := by
  induction splits with
  | wait waits => exact splitFrames_of_none waits
  | stop stops => exact splitFrames_of_error stops
  | take takes _ induction => rw [splitFrames_of_some takes, induction]

namespace Tunnel

section

variable (aesCbcDecrypt : List UInt8 → List UInt8 → Except String (List UInt8))
variable (parseJson : List UInt8 → Except String Json)
variable {World : Type} (listener : World → Json → Except String World)

/-- `onFrame` and the `message` listener it calls. -/
def handle (tunnel : Tunnel) (world : World) (frame : Frame) :
    Except String (Tunnel × World × Effect) := do
  let (tunnel, effect) ← tunnel.onFrame aesCbcDecrypt parseJson frame
  let world ← runListener listener world effect
  pure (tunnel, world, effect)

/-- What a call of `onData`, or several, did. -/
structure Delivery (World : Type) where
  /-- The frames that were handed to `onFrame`. -/
  frames : List Frame
  /-- The bytes that are left in `this.buffer`. -/
  buffer : List UInt8
  /-- How it ended. -/
  outcome : Except String (Tunnel × World × List Effect)

/-- The loop of `onData` with the frames that it hands to `onFrame`. -/
def deliverLoop (buffer : List UInt8) (tunnel : Tunnel) (world : World) : Delivery World :=
  match _parsed : parseFrame buffer with
  | .error error =>
      let (tunnel, effects) := { tunnel with buffer }.close
      ⟨[], buffer, .ok (tunnel, world, .error error :: effects)⟩
  | .ok none => ⟨[], buffer, .ok ({ tunnel with buffer }, world, [])⟩
  | .ok (some (frame, rest)) =>
      match tunnel.handle aesCbcDecrypt parseJson listener world frame with
      | .error thrown => ⟨[frame], rest, .error thrown⟩
      | .ok (tunnel, world, effect) =>
          let later := deliverLoop rest tunnel world
          ⟨frame :: later.frames, later.buffer, do
            let (tunnel, world, effects) ← later.outcome
            pure (tunnel, world, effect :: effects)⟩
termination_by buffer.length
decreasing_by exact length_lt_of_parseFrame ‹_›

theorem deliverLoop_of_error {buffer : List UInt8} {error : String} (tunnel : Tunnel)
    (world : World) (parsed : parseFrame buffer = .error error) :
    deliverLoop aesCbcDecrypt parseJson listener buffer tunnel world =
      ⟨[], buffer, .ok ({ tunnel with buffer }.close.1, world,
        .error error :: { tunnel with buffer }.close.2)⟩ := by
  rw [deliverLoop]
  split <;> simp_all

theorem deliverLoop_of_none {buffer : List UInt8} (tunnel : Tunnel) (world : World)
    (parsed : parseFrame buffer = .ok none) :
    deliverLoop aesCbcDecrypt parseJson listener buffer tunnel world =
      ⟨[], buffer, .ok ({ tunnel with buffer }, world, [])⟩ := by
  rw [deliverLoop]
  split <;> simp_all

theorem deliverLoop_of_throw {buffer rest : List UInt8} {frame : Frame} {tunnel : Tunnel}
    {world : World} {thrown : String} (parsed : parseFrame buffer = .ok (some (frame, rest)))
    (throws : tunnel.handle aesCbcDecrypt parseJson listener world frame = .error thrown) :
    deliverLoop aesCbcDecrypt parseJson listener buffer tunnel world =
      ⟨[frame], rest, .error thrown⟩ := by
  rw [deliverLoop]
  split <;> simp_all

theorem deliverLoop_of_some {buffer rest : List UInt8} {frame : Frame} {tunnel tunnel' : Tunnel}
    {world world' : World} {effect : Effect} (parsed : parseFrame buffer = .ok (some (frame, rest)))
    (handled : tunnel.handle aesCbcDecrypt parseJson listener world frame =
      .ok (tunnel', world', effect)) :
    deliverLoop aesCbcDecrypt parseJson listener buffer tunnel world =
      let later := deliverLoop aesCbcDecrypt parseJson listener rest tunnel' world'
      ⟨frame :: later.frames, later.buffer, do
        let (tunnel, world, effects) ← later.outcome
        pure (tunnel, world, effect :: effects)⟩ := by
  rw [deliverLoop]
  split <;> simp_all

/-- `onDataLoop` in terms of `handle`. -/
theorem onDataLoop_eq_handle {buffer rest : List UInt8} {frame : Frame} (tunnel : Tunnel)
    (world : World) (parsed : parseFrame buffer = .ok (some (frame, rest))) :
    onDataLoop aesCbcDecrypt parseJson listener buffer tunnel world = (do
      let (tunnel, world, effect) ← tunnel.handle aesCbcDecrypt parseJson listener world frame
      let (tunnel, world, effects) ← onDataLoop aesCbcDecrypt parseJson listener rest tunnel world
      pure (tunnel, world, effect :: effects)) := by
  rw [onDataLoop_of_some _ _ _ _ _ parsed]
  simp only [handle, bind_assoc, pure_bind]

/-- The frames are those of the loop of `onData`. -/
theorem outcome_deliverLoop (buffer : List UInt8) (tunnel : Tunnel) (world : World) :
    (deliverLoop aesCbcDecrypt parseJson listener buffer tunnel world).outcome =
      onDataLoop aesCbcDecrypt parseJson listener buffer tunnel world := by
  induction buffer using splitFrames.induct generalizing tunnel world with
  | case1 buffer error parsed =>
      rw [deliverLoop_of_error _ _ _ _ _ parsed, onDataLoop_of_error _ _ _ _ _ parsed]
  | case2 buffer parsed =>
      rw [deliverLoop_of_none _ _ _ _ _ parsed, onDataLoop_of_none _ _ _ _ _ parsed]
  | case3 buffer frame rest parsed induction =>
      rw [onDataLoop_eq_handle _ _ _ _ _ parsed]
      cases handled : tunnel.handle aesCbcDecrypt parseJson listener world frame with
      | error thrown =>
          rw [deliverLoop_of_throw _ _ _ parsed handled]
          rfl
      | ok done =>
          obtain ⟨tunnel', world', effect⟩ := done
          rw [deliverLoop_of_some _ _ _ parsed handled, ok_bind]
          simp only [induction tunnel' world']

/-- The frames handed over one after the other, up to one that throws. -/
def handOver (tunnel : Tunnel) (world : World) :
    List Frame → List Frame × Except String (Tunnel × World × List Effect)
  | [] => ([], .ok (tunnel, world, []))
  | frame :: frames =>
      match tunnel.handle aesCbcDecrypt parseJson listener world frame with
      | .error thrown => ([frame], .error thrown)
      | .ok (tunnel, world, effect) =>
          let later := handOver tunnel world frames
          (frame :: later.1, do
            let (tunnel, world, effects) ← later.2
            pure (tunnel, world, effect :: effects))

theorem dispatch_buffer (tunnel : Tunnel) (message : Json) (buffer : List UInt8) :
    dispatch { tunnel with buffer } message =
      (tunnel.dispatch message).map fun done => ({ done.1 with buffer }, done.2) := by
  by_cases null : message = .null
  · rw [null]
    rfl
  · rw [dispatch_of_ne_null null, dispatch_of_ne_null null]
    have same : waitingFor { tunnel with buffer } (message.get? "seq") =
        tunnel.waitingFor (message.get? "seq") := rfl
    rw [same]
    cases tunnel.waitingFor (message.get? "seq") with
    | some waiting => rfl
    | none => rfl

/-- `onFrame` does not look at the buffer. -/
theorem onFrame_buffer (tunnel : Tunnel) (frame : Frame) (buffer : List UInt8) :
    onFrame aesCbcDecrypt parseJson { tunnel with buffer } frame =
      (tunnel.onFrame aesCbcDecrypt parseJson frame).map
        fun done => ({ done.1 with buffer }, done.2) := by
  by_cases handshake : tunnel.sessionKey = none ∨ frame.type ≠ msgTypeSession
  · rw [onFrame_of_handshake _ _ handshake,
      @onFrame_of_handshake _ _ { tunnel with buffer } _ handshake]
    simp only [onHandshakeFrame]
    cases tunnel.frameWaiters with
    | nil => rfl
    | cons expected waiters => rfl
  · rw [not_or, not_not] at handshake
    obtain ⟨key, opened⟩ := Option.ne_none_iff_exists'.mp handshake.1
    rw [onFrame_of_session _ _ opened handshake.2,
      @onFrame_of_session _ _ { tunnel with buffer } _ _ opened handshake.2]
    cases readMessage aesCbcDecrypt parseJson key frame with
    | error error => rfl
    | ok message => exact dispatch_buffer tunnel message buffer

theorem handle_buffer (tunnel : Tunnel) (world : World) (frame : Frame) (buffer : List UInt8) :
    handle aesCbcDecrypt parseJson listener { tunnel with buffer } world frame =
      (tunnel.handle aesCbcDecrypt parseJson listener world frame).map
        fun done => ({ done.1 with buffer }, done.2) := by
  rw [handle, onFrame_buffer, handle]
  cases tunnel.onFrame aesCbcDecrypt parseJson frame with
  | error error => rfl
  | ok done =>
      simp only [Except.map, ok_bind]
      cases runListener listener world done.2 with
      | error error => rfl
      | ok world => rfl

/-- `onFrame` keeps the socket. -/
theorem hasSocket_of_onFrame {tunnel tunnel' : Tunnel} {frame : Frame} {effect : Effect}
    (handled : tunnel.onFrame aesCbcDecrypt parseJson frame = .ok (tunnel', effect)) :
    tunnel'.hasSocket = tunnel.hasSocket := by
  by_cases handshake : tunnel.sessionKey = none ∨ frame.type ≠ msgTypeSession
  · rw [onFrame_of_handshake _ _ handshake, onHandshakeFrame] at handled
    split at handled
    · cases handled
      rfl
    · cases handled
      rfl
  · rw [not_or, not_not] at handshake
    obtain ⟨key, opened⟩ := Option.ne_none_iff_exists'.mp handshake.1
    rw [onFrame_of_session _ _ opened handshake.2] at handled
    split at handled
    · cases handled
      rfl
    · rename_i message _
      have present : message ≠ .null := by
        rintro rfl
        cases handled
      rw [dispatch_of_ne_null present] at handled
      split at handled
      · cases handled
        rfl
      · cases handled
        rfl

theorem handOver_buffer (tunnel : Tunnel) (world : World) (frames : List Frame)
    (buffer : List UInt8) :
    handOver aesCbcDecrypt parseJson listener { tunnel with buffer } world frames =
      ((handOver aesCbcDecrypt parseJson listener tunnel world frames).1,
        (handOver aesCbcDecrypt parseJson listener tunnel world frames).2.map
          fun done => ({ done.1 with buffer }, done.2)) := by
  induction frames generalizing tunnel world with
  | nil => rfl
  | cons frame frames induction =>
      rw [handOver, handle_buffer, handOver]
      cases tunnel.handle aesCbcDecrypt parseJson listener world frame with
      | error thrown => rfl
      | ok done =>
          obtain ⟨tunnel', world', effect⟩ := done
          simp only [Except.map]
          rw [induction tunnel' world']
          cases (handOver aesCbcDecrypt parseJson listener tunnel' world' frames).2 with
          | error thrown => rfl
          | ok done => rfl

/-- Frames that are all handed over without a throw are accounted for one by one. -/
theorem handOver_accounted {tunnel tunnel' : Tunnel} {world world' : World} {frames : List Frame}
    {effects : List Effect} (returned : (handOver aesCbcDecrypt parseJson listener tunnel world
      frames).2 = .ok (tunnel', world', effects)) :
    (handOver aesCbcDecrypt parseJson listener tunnel world frames).1 = frames ∧
      List.Forall₂ Accounted frames effects ∧ tunnel'.hasSocket = tunnel.hasSocket := by
  induction frames generalizing tunnel world effects with
  | nil =>
      cases returned
      exact ⟨rfl, .nil, rfl⟩
  | cons frame frames induction =>
      rw [handOver] at returned ⊢
      cases handled : tunnel.handle aesCbcDecrypt parseJson listener world frame with
      | error thrown =>
          rw [handled] at returned
          cases returned
      | ok done =>
          obtain ⟨next, world'', effect⟩ := done
          rw [handled] at returned
          obtain ⟨⟨_, _, others⟩, later, done⟩ := bind_eq_ok_iff.mp returned
          cases done
          obtain ⟨all, accounted, kept⟩ := induction later
          obtain ⟨⟨first, effect'⟩, onFrame, rest⟩ := bind_eq_ok_iff.mp handled
          obtain ⟨_, -, done⟩ := bind_eq_ok_iff.mp rest
          cases done
          refine ⟨congrArg (frame :: ·) all, .cons ?_ accounted,
            kept.trans (hasSocket_of_onFrame _ _ onFrame)⟩
          rcases onFrame_cases aesCbcDecrypt parseJson tunnel frame with
            ⟨-, error, thrown⟩ | ⟨-, _, _, returned, -, accounted⟩
          · exact nomatch thrown.symm.trans onFrame
          · cases returned.symm.trans onFrame
            exact accounted

theorem handOver_append_of_error {tunnel : Tunnel} {world : World} {frames : List Frame}
    {thrown : String} (throws : (handOver aesCbcDecrypt parseJson listener tunnel world frames).2 =
      .error thrown) (later : List Frame) :
    handOver aesCbcDecrypt parseJson listener tunnel world (frames ++ later) =
      handOver aesCbcDecrypt parseJson listener tunnel world frames := by
  induction frames generalizing tunnel world with
  | nil => cases throws
  | cons frame frames induction =>
      rw [handOver] at throws
      rw [List.cons_append, handOver, handOver]
      cases handled : tunnel.handle aesCbcDecrypt parseJson listener world frame with
      | error thrown => rfl
      | ok done =>
          obtain ⟨next, world', effect⟩ := done
          rw [handled] at throws
          simp only
          cases rest : (handOver aesCbcDecrypt parseJson listener next world' frames).2 with
          | error thrown' =>
              simp only [rest] at throws
              cases throws
              rw [induction rest, rest]
          | ok done =>
              simp only [rest] at throws
              cases throws

theorem handOver_append_of_ok {tunnel tunnel' : Tunnel} {world world' : World} {frames : List Frame}
    {effects : List Effect} (returned : (handOver aesCbcDecrypt parseJson listener tunnel world
      frames).2 = .ok (tunnel', world', effects)) (later : List Frame) :
    handOver aesCbcDecrypt parseJson listener tunnel world (frames ++ later) =
      (frames ++ (handOver aesCbcDecrypt parseJson listener tunnel' world' later).1,
        (handOver aesCbcDecrypt parseJson listener tunnel' world' later).2.map
          fun done => (done.1, done.2.1, effects ++ done.2.2)) := by
  induction frames generalizing tunnel world effects with
  | nil =>
      cases returned
      rw [List.nil_append]
      generalize handOver aesCbcDecrypt parseJson listener tunnel' world' later = result
      obtain ⟨handed, outcome⟩ := result
      cases outcome with
      | error thrown => rfl
      | ok done => rfl
  | cons frame frames induction =>
      rw [handOver] at returned
      rw [List.cons_append, handOver]
      cases handled : tunnel.handle aesCbcDecrypt parseJson listener world frame with
      | error thrown =>
          rw [handled] at returned
          cases returned
      | ok done =>
          obtain ⟨next, world'', effect⟩ := done
          rw [handled] at returned
          obtain ⟨⟨_, _, others⟩, rest, done⟩ := bind_eq_ok_iff.mp returned
          cases done
          simp only
          rw [induction rest]
          cases (handOver aesCbcDecrypt parseJson listener tunnel' world' later).2 with
          | error thrown => rfl
          | ok done => rfl

/-- Frames in two parts that are all handed over. -/
theorem handOver_append_returns {tunnel tunnel' : Tunnel} {world world' : World}
    {frames later : List Frame} {effects : List Effect}
    (returned : (handOver aesCbcDecrypt parseJson listener tunnel world (frames ++ later)).2 =
      .ok (tunnel', world', effects)) :
    ∃ next world'' accounts others,
      (handOver aesCbcDecrypt parseJson listener tunnel world frames).2 =
        .ok (next, world'', accounts) ∧
      (handOver aesCbcDecrypt parseJson listener next world'' later).2 =
        .ok (tunnel', world', others) ∧ effects = accounts ++ others := by
  cases first : (handOver aesCbcDecrypt parseJson listener tunnel world frames).2 with
  | error thrown =>
      rw [handOver_append_of_error _ _ _ first, first] at returned
      cases returned
  | ok done =>
      obtain ⟨next, world'', accounts⟩ := done
      rw [handOver_append_of_ok _ _ _ first] at returned
      cases second : (handOver aesCbcDecrypt parseJson listener next world'' later).2 with
      | error thrown =>
          rw [second] at returned
          cases returned
      | ok done =>
          rw [second] at returned
          cases returned
          exact ⟨next, world'', accounts, done.2.2, rfl, second, rfl⟩

/-! ## What a call of `onData` does -/

section

variable {data : List UInt8} {frames : List Frame} {ending : Except String (List UInt8)}

/-- Up to a throw the loop hands over the frames at the head of the buffer, and the rest is left. -/
theorem deliverLoop_of_throws (splits : Splits parseFrame data frames ending) {tunnel : Tunnel}
    {world : World} {thrown : String}
    (throws : (handOver aesCbcDecrypt parseJson listener tunnel world frames).2 = .error thrown) :
    ∃ buffer tail, Splits parseFrame buffer tail ending ∧
      frames = (handOver aesCbcDecrypt parseJson listener tunnel world frames).1 ++ tail ∧
      deliverLoop aesCbcDecrypt parseJson listener data tunnel world =
        ⟨(handOver aesCbcDecrypt parseJson listener tunnel world frames).1, buffer,
          .error thrown⟩ := by
  induction splits generalizing tunnel world with
  | wait _ => cases throws
  | stop _ => cases throws
  | @take data rest frame frames ending takes splits induction =>
      rw [handOver] at throws
      rw [handOver]
      cases handled : tunnel.handle aesCbcDecrypt parseJson listener world frame with
      | error thrown' =>
          rw [handled] at throws
          cases throws
          exact ⟨rest, frames, splits, rfl, deliverLoop_of_throw _ _ _ takes handled⟩
      | ok done =>
          obtain ⟨next, world', effect⟩ := done
          rw [handled] at throws
          cases later : (handOver aesCbcDecrypt parseJson listener next world' frames).2 with
          | error thrown' =>
              simp only [later] at throws
              cases throws
              obtain ⟨buffer, tail, left, parts, delivered⟩ := induction later
              refine ⟨buffer, tail, left, congrArg (frame :: ·) parts, ?_⟩
              rw [deliverLoop_of_some _ _ _ takes handled, delivered]
              rfl
          | ok done =>
              simp only [later] at throws
              cases throws

/-- Frames that are all handed over leave what the reader waits with. -/
theorem deliverLoop_of_waits {left : List UInt8}
    (splits : Splits parseFrame data frames (.ok left)) {tunnel tunnel' : Tunnel}
    {world world' : World} {effects : List Effect}
    (returned : (handOver aesCbcDecrypt parseJson listener tunnel world frames).2 =
      .ok (tunnel', world', effects)) :
    deliverLoop aesCbcDecrypt parseJson listener data tunnel world =
      ⟨frames, left, .ok ({ tunnel' with buffer := left }, world', effects)⟩ := by
  generalize waiting : Except.ok left = ending at splits
  induction splits generalizing tunnel world effects with
  | wait waits =>
      cases waiting
      cases returned
      exact deliverLoop_of_none _ _ _ _ _ waits
  | stop _ => cases waiting
  | take takes _ induction =>
      rw [handOver] at returned
      split at returned
      · cases returned
      · rename_i next world'' effect handled
        obtain ⟨⟨_, _, others⟩, rest, done⟩ := bind_eq_ok_iff.mp returned
        cases done
        rw [deliverLoop_of_some _ _ _ takes handled, induction rest waiting]
        rfl

/-- Frames that are all handed over and then an error close the tunnel. -/
theorem deliverLoop_of_stops {error : String}
    (splits : Splits parseFrame data frames (.error error)) {tunnel tunnel' : Tunnel}
    {world world' : World} {effects : List Effect}
    (returned : (handOver aesCbcDecrypt parseJson listener tunnel world frames).2 =
      .ok (tunnel', world', effects)) :
    ∃ buffer, deliverLoop aesCbcDecrypt parseJson listener data tunnel world =
      ⟨frames, buffer, .ok ({ tunnel' with buffer }.close.1, world',
        effects ++ .error error :: { tunnel' with buffer }.close.2)⟩ := by
  generalize stopped : Except.error error = ending at splits
  induction splits generalizing tunnel world effects with
  | wait _ => cases stopped
  | @stop data _ stops =>
      cases stopped
      cases returned
      exact ⟨data, deliverLoop_of_error _ _ _ _ _ stops⟩
  | take takes _ induction =>
      rw [handOver] at returned
      split at returned
      · cases returned
      · rename_i next world'' effect handled
        obtain ⟨⟨_, _, others⟩, rest, done⟩ := bind_eq_ok_iff.mp returned
        cases done
        obtain ⟨buffer, delivered⟩ := induction rest stopped
        refine ⟨buffer, ?_⟩
        rw [deliverLoop_of_some _ _ _ takes handled, delivered]
        rfl

end

/-! ## What the chunks of a stream do -/

/-- Hand chunks to `onData` one by one.  A socket that has been destroyed emits no more of them, and
nothing follows an exception. -/
def feed (tunnel : Tunnel) (world : World) : List (List UInt8) → Delivery World
  | [] => ⟨[], tunnel.buffer, .ok (tunnel, world, [])⟩
  | chunk :: chunks =>
      if tunnel.hasSocket then
        let first := deliverLoop aesCbcDecrypt parseJson listener (tunnel.buffer ++ chunk) tunnel world
        match first.outcome with
        | .error _ => first
        | .ok (tunnel, world, effects) =>
            let later := feed tunnel world chunks
            ⟨first.frames ++ later.frames, later.buffer, do
              let (tunnel, world, others) ← later.outcome
              pure (tunnel, world, effects ++ others)⟩
      else ⟨[], tunnel.buffer, .ok (tunnel, world, [])⟩

theorem feed_closed {tunnel : Tunnel} (closed : tunnel.hasSocket = false) (world : World)
    (chunks : List (List UInt8)) :
    feed aesCbcDecrypt parseJson listener tunnel world chunks =
      ⟨[], tunnel.buffer, .ok (tunnel, world, [])⟩ := by
  cases chunks with
  | nil => rfl
  | cons chunk chunks => simp [feed, closed]

section

variable {chunks : List (List UInt8)} {frames : List Frame} {tunnel : Tunnel} {world : World}

/-- Chunks that bring a frame which throws hand over the frames up to it. -/
theorem feed_of_throws (connected : tunnel.hasSocket = true)
    (waits : parseFrame tunnel.buffer = .ok none) {ending : Except String (List UInt8)}
    (splits : Splits parseFrame (tunnel.buffer ++ chunks.flatten) frames ending) {thrown : String}
    (throws : (handOver aesCbcDecrypt parseJson listener tunnel world frames).2 = .error thrown) :
    ∃ buffer rest tail, Splits parseFrame (buffer ++ rest) tail ending ∧
      frames = (handOver aesCbcDecrypt parseJson listener tunnel world frames).1 ++ tail ∧
      feed aesCbcDecrypt parseJson listener tunnel world chunks =
        ⟨(handOver aesCbcDecrypt parseJson listener tunnel world frames).1, buffer,
          .error thrown⟩ := by
  induction chunks generalizing tunnel world frames with
  | nil =>
      rw [List.flatten_nil, List.append_nil] at splits
      obtain ⟨rfl, -⟩ := splits.unique (.wait waits)
      cases throws
  | cons chunk chunks induction =>
      rw [List.flatten_cons, ← List.append_assoc] at splits
      rw [feed, if_pos connected]
      rcases splits.cut incremental_parseFrame with
        ⟨error, starts, rfl⟩ | ⟨earlier, later, left, rfl, starts, goes⟩
      · obtain ⟨buffer, tail, rest, parts, delivered⟩ :=
          deliverLoop_of_throws aesCbcDecrypt parseJson listener starts throws
        refine ⟨buffer, [], tail, by rwa [List.append_nil], parts, ?_⟩
        rw [delivered]
      · cases first : (handOver aesCbcDecrypt parseJson listener tunnel world earlier).2 with
        | error thrown' =>
            rw [handOver_append_of_error _ _ _ first] at throws ⊢
            obtain ⟨buffer, tail, rest, parts, delivered⟩ :=
              deliverLoop_of_throws aesCbcDecrypt parseJson listener starts throws
            refine ⟨buffer, chunks.flatten, tail ++ later,
              rest.append incremental_parseFrame goes, ?_, ?_⟩
            · rw [← List.append_assoc, ← parts]
            · rw [delivered]
        | ok done =>
            obtain ⟨tunnel', world', effects⟩ := done
            obtain ⟨-, -, kept⟩ := handOver_accounted _ _ _ first
            rw [handOver_append_of_ok _ _ _ first] at throws ⊢
            have delivered := deliverLoop_of_waits aesCbcDecrypt parseJson listener starts first
            have further := handOver_buffer aesCbcDecrypt parseJson listener tunnel' world' later left
            cases thrower : (handOver aesCbcDecrypt parseJson listener tunnel' world' later).2 with
            | error thrown' =>
                rw [thrower] at throws further
                cases throws
                obtain ⟨buffer, rest, tail, splits', parts, fed⟩ :=
                  induction (show { tunnel' with buffer := left }.hasSocket = true from
                      kept.trans connected)
                    starts.waits goes (congrArg Prod.snd further)
                rw [further] at parts fed
                refine ⟨buffer, rest, tail, splits', ?_, ?_⟩
                · rw [List.append_assoc, ← parts]
                · rw [delivered]
                  simp only [fed]
                  rfl
            | ok done =>
                rw [thrower] at throws
                cases throws

/-- Chunks that bring whole frames hand them all over and leave nothing. -/
theorem feed_of_waits (connected : tunnel.hasSocket = true)
    (waits : parseFrame tunnel.buffer = .ok none) {left : List UInt8}
    (splits : Splits parseFrame (tunnel.buffer ++ chunks.flatten) frames (.ok left))
    {tunnel' : Tunnel} {world' : World} {effects : List Effect}
    (returned : (handOver aesCbcDecrypt parseJson listener tunnel world frames).2 =
      .ok (tunnel', world', effects)) :
    feed aesCbcDecrypt parseJson listener tunnel world chunks =
      ⟨frames, left, .ok ({ tunnel' with buffer := left }, world', effects)⟩ := by
  induction chunks generalizing tunnel tunnel' world frames effects with
  | nil =>
      rw [List.flatten_nil, List.append_nil] at splits
      obtain ⟨rfl, same⟩ := splits.unique (.wait waits)
      cases same
      cases returned
      rfl
  | cons chunk chunks induction =>
      rw [List.flatten_cons, ← List.append_assoc] at splits
      rw [feed, if_pos connected]
      rcases splits.cut incremental_parseFrame with
        ⟨error, -, impossible⟩ | ⟨earlier, later, between, rfl, starts, goes⟩
      · cases impossible
      · obtain ⟨next, world'', accounts, others, first, second, rfl⟩ :=
          handOver_append_returns _ _ _ returned
        obtain ⟨-, -, kept⟩ := handOver_accounted _ _ _ first
        rw [deliverLoop_of_waits _ _ _ starts first]
        have fed := induction
          (show { next with buffer := between }.hasSocket = true from kept.trans connected)
          starts.waits goes (by rw [handOver_buffer, second]; rfl)
        simp only [fed]
        rfl

/-- Chunks that bring whole frames and then an error hand over the frames and close the tunnel. -/
theorem feed_of_stops (connected : tunnel.hasSocket = true)
    (waits : parseFrame tunnel.buffer = .ok none) {error : String}
    (splits : Splits parseFrame (tunnel.buffer ++ chunks.flatten) frames (.error error))
    {tunnel' : Tunnel} {world' : World} {effects : List Effect}
    (returned : (handOver aesCbcDecrypt parseJson listener tunnel world frames).2 =
      .ok (tunnel', world', effects)) :
    ∃ buffer, feed aesCbcDecrypt parseJson listener tunnel world chunks =
      ⟨frames, buffer, .ok ({ tunnel' with buffer }.close.1, world',
        effects ++ [.error error, .destroyed])⟩ := by
  induction chunks generalizing tunnel tunnel' world frames effects with
  | nil =>
      rw [List.flatten_nil, List.append_nil] at splits
      exact nomatch (splits.unique (.wait waits)).2
  | cons chunk chunks induction =>
      rw [List.flatten_cons, ← List.append_assoc] at splits
      rw [feed, if_pos connected]
      rcases splits.cut incremental_parseFrame with
        ⟨error', starts, same⟩ | ⟨earlier, later, between, rfl, starts, goes⟩
      · cases same
        obtain ⟨-, -, kept⟩ := handOver_accounted _ _ _ returned
        obtain ⟨buffer, delivered⟩ := deliverLoop_of_stops _ _ _ starts returned
        have socket : tunnel'.hasSocket = true := kept.trans connected
        have closed := feed_closed aesCbcDecrypt parseJson listener
          (show { tunnel' with buffer }.close.1.hasSocket = false from rfl) world' chunks
        have closing : { tunnel' with buffer }.close.2 = [.destroyed] := if_pos socket
        refine ⟨buffer, ?_⟩
        rw [delivered, closing]
        simp only [closed, ok_bind, List.append_nil]
        rfl
      · obtain ⟨next, world'', accounts, others, first, second, rfl⟩ :=
          handOver_append_returns _ _ _ returned
        obtain ⟨-, -, kept⟩ := handOver_accounted _ _ _ first
        rw [deliverLoop_of_waits _ _ _ starts first]
        obtain ⟨buffer, fed⟩ := induction
          (show { next with buffer := between }.hasSocket = true from kept.trans connected)
          starts.waits goes (by rw [handOver_buffer, second]; rfl)
        refine ⟨buffer, ?_⟩
        simp only [fed, List.append_assoc]
        rfl

end

/-! ## Reassembly -/

/-- No session frame says `null`, and the `message` listener returns for what the frames push. -/
def Undisturbed (tunnel : Tunnel) (world : World) (frames : List Frame) : Prop :=
  (∀ frame ∈ frames, ¬ tunnel.SaysNull aesCbcDecrypt parseJson frame) ∧
    Returns ((tunnel.pushes aesCbcDecrypt parseJson frames).foldlM listener world)

theorem returns_handOver_iff {frames : List Frame} (sendable : ∀ frame ∈ frames, frame.Sendable)
    (tunnel : Tunnel) (world : World) :
    Returns (handOver aesCbcDecrypt parseJson listener tunnel world frames).2 ↔
      tunnel.Undisturbed aesCbcDecrypt parseJson listener world frames := by
  have splits := splits_bytes sendable splits_nil
  have returns_iff := onDataLoop_returns_iff aesCbcDecrypt parseJson listener
    (frames.flatMap Frame.bytes ++ []) tunnel world
  rw [splitFrames_of_splits splits, ← outcome_deliverLoop] at returns_iff
  rw [Undisturbed, ← returns_iff]
  constructor
  · rintro ⟨⟨tunnel', world', effects⟩, returned⟩
    obtain ⟨-, accounted, -⟩ := handOver_accounted _ _ _ returned
    refine ⟨{ tunnel' with buffer := [] }, world', effects, [], ?_, accounted⟩
    rw [deliverLoop_of_waits _ _ _ splits returned, List.append_nil]
  · rintro ⟨tunnel', world', accounts, closing, returned, -⟩
    cases ended : (handOver aesCbcDecrypt parseJson listener tunnel world frames).2 with
    | ok done => exact returns_ok done
    | error thrown =>
        obtain ⟨buffer, tail, -, -, delivered⟩ := deliverLoop_of_throws _ _ _ splits ended
        rw [delivered] at returned
        cases returned

theorem length_handOver_le (tunnel : Tunnel) (world : World) (frames : List Frame) :
    (handOver aesCbcDecrypt parseJson listener tunnel world frames).1.length ≤ frames.length := by
  induction frames generalizing tunnel world with
  | nil => exact le_rfl
  | cons frame frames induction =>
      rw [handOver]
      split
      · exact Nat.succ_le_succ (Nat.zero_le _)
      · exact Nat.succ_le_succ (induction _ _)

/-- All the frames are handed over when none but the last throws. -/
theorem handOver_fst_eq_iff (tunnel : Tunnel) (world : World) (frames : List Frame) :
    (handOver aesCbcDecrypt parseJson listener tunnel world frames).1 = frames ↔
      Returns (handOver aesCbcDecrypt parseJson listener tunnel world frames.dropLast).2 := by
  rcases List.eq_nil_or_concat frames with rfl | ⟨front, last, rfl⟩
  · exact ⟨fun _ => returns_ok _, fun _ => rfl⟩
  · rw [List.concat_eq_append, List.dropLast_concat]
    cases ended : (handOver aesCbcDecrypt parseJson listener tunnel world front).2 with
    | error thrown =>
        rw [handOver_append_of_error _ _ _ ended]
        refine ⟨fun all => ?_, fun returns => absurd returns (not_returns_error thrown)⟩
        have short := length_handOver_le aesCbcDecrypt parseJson listener tunnel world front
        rw [all, List.length_append, List.length_singleton] at short
        omega
    | ok done =>
        obtain ⟨tunnel', world', effects⟩ := done
        rw [handOver_append_of_ok _ _ _ ended, handOver]
        refine ⟨fun _ => returns_ok _, fun _ => ?_⟩
        split
        · rfl
        · rfl

/-- What was handed over, what is left, and nothing else. -/
structure Delivery.Reassembles (delivery : Delivery World) (frames : List Frame) : Prop where
  /-- The frames come out in order, each once. -/
  handed : delivery.frames = frames
  /-- Nothing is left of them. -/
  empties : delivery.buffer = []

/-- The frames come out and what follows them closes the tunnel. -/
structure Delivery.Rejects (delivery : Delivery World) (frames : List Frame) (error : String) :
    Prop where
  /-- The frames come out in order, each once. -/
  handed : delivery.frames = frames
  /-- Each is accounted for, then one error is emitted and the socket destroyed. -/
  closes : ∃ tunnel world accounts,
    delivery.outcome = .ok (tunnel, world, accounts ++ [.error error, .destroyed]) ∧
      List.Forall₂ Accounted frames accounts ∧ tunnel.hasSocket = false

section

variable {tunnel : Tunnel} {world : World} {frames : List Frame} {chunks : List (List UInt8)}

/-- Frames in chunks of any size are put together again unless one before the last throws. -/
theorem reassembles_iff (connected : tunnel.hasSocket = true) (empty : tunnel.buffer = [])
    (sendable : ∀ frame ∈ frames, frame.Sendable) (cut : chunks.flatten = frames.flatMap Frame.bytes) :
    (feed aesCbcDecrypt parseJson listener tunnel world chunks).Reassembles frames ↔
      tunnel.Undisturbed aesCbcDecrypt parseJson listener world frames.dropLast := by
  have waits : parseFrame tunnel.buffer = .ok none := by rw [empty]; rfl
  have sendable' : ∀ frame ∈ frames.dropLast, frame.Sendable :=
    fun frame member => sendable frame ((List.dropLast_sublist frames).subset member)
  have splits : Splits parseFrame (tunnel.buffer ++ chunks.flatten) frames (.ok []) := by
    rw [empty, cut, List.nil_append, ← List.append_nil (frames.flatMap _)]
    exact splits_bytes sendable (.wait rfl)
  rw [← returns_handOver_iff _ _ _ sendable', ← handOver_fst_eq_iff]
  cases ended : (handOver aesCbcDecrypt parseJson listener tunnel world frames).2 with
  | error thrown =>
      obtain ⟨buffer, rest, tail, left, parts, fed⟩ :=
        feed_of_throws _ _ _ connected waits splits ended
      rw [fed]
      refine ⟨Delivery.Reassembles.handed, fun all => ⟨all, ?_⟩⟩
      rw [all] at parts
      have nothing : tail = [] := by simpa using parts
      rw [nothing] at left
      generalize remains : buffer ++ rest = data at left
      cases left
      exact (List.append_eq_nil_iff.mp remains).1
  | ok done =>
      obtain ⟨tunnel', world', effects⟩ := done
      obtain ⟨all, -, -⟩ := handOver_accounted _ _ _ ended
      rw [feed_of_waits _ _ _ connected waits splits ended]
      exact ⟨fun _ => all, fun _ => ⟨rfl, rfl⟩⟩

/-- Frames and then bytes that can never be a frame close the tunnel unless a frame throws. -/
theorem rejects_iff (connected : tunnel.hasSocket = true) (empty : tunnel.buffer = [])
    (sendable : ∀ frame ∈ frames, frame.Sendable) {junk : List UInt8} {error : String}
    (rejected : parseFrame junk = .error error)
    (cut : chunks.flatten = frames.flatMap Frame.bytes ++ junk) :
    (feed aesCbcDecrypt parseJson listener tunnel world chunks).Rejects frames error ↔
      tunnel.Undisturbed aesCbcDecrypt parseJson listener world frames := by
  have waits : parseFrame tunnel.buffer = .ok none := by rw [empty]; rfl
  have splits : Splits parseFrame (tunnel.buffer ++ chunks.flatten) frames (.error error) := by
    rw [empty, cut]
    exact splits_bytes sendable (.stop rejected)
  rw [← returns_handOver_iff _ _ _ sendable]
  cases ended : (handOver aesCbcDecrypt parseJson listener tunnel world frames).2 with
  | error thrown =>
      obtain ⟨buffer, rest, tail, -, -, fed⟩ := feed_of_throws _ _ _ connected waits splits ended
      rw [fed]
      constructor
      · rintro ⟨-, _, _, _, impossible, -⟩
        cases impossible
      · exact fun returns => absurd returns (not_returns_error thrown)
  | ok done =>
      obtain ⟨tunnel', world', effects⟩ := done
      obtain ⟨-, accounted, -⟩ := handOver_accounted _ _ _ ended
      obtain ⟨buffer, fed⟩ := feed_of_stops _ _ _ connected waits splits ended
      rw [fed]
      exact ⟨fun _ => returns_ok _, fun _ => ⟨rfl, _, _, _, rfl, accounted, rfl⟩⟩

end

/-- A stream in chunks of any size is put together again, unless a frame of it throws: one before
the last when the stream ends with the frames, any of them when an error is to follow. -/
theorem stream_reassembled_iff {tunnel : Tunnel} (connected : tunnel.hasSocket = true)
    (empty : tunnel.buffer = []) (world : World) {frames : List Frame}
    (sendable : ∀ frame ∈ frames, frame.Sendable) {bytes : List UInt8}
    (encoded : encodeFrames frames = some bytes) :
    (∀ chunks, chunks.flatten = bytes →
      ((feed aesCbcDecrypt parseJson listener tunnel world chunks).Reassembles frames ↔
        tunnel.Undisturbed aesCbcDecrypt parseJson listener world frames.dropLast)) ∧
      ∀ junk error chunks, parseFrame junk = .error error → chunks.flatten = bytes ++ junk →
        ((feed aesCbcDecrypt parseJson listener tunnel world chunks).Rejects frames error ↔
          tunnel.Undisturbed aesCbcDecrypt parseJson listener world frames) := by
  have written : bytes = frames.flatMap Frame.bytes :=
    Option.some.inj (encoded.symm.trans (encodeFrames_eq sendable))
  exact ⟨fun chunks cut => reassembles_iff _ _ _ connected empty sendable (cut.trans written),
    fun junk error chunks rejected cut =>
      rejects_iff _ _ _ connected empty sendable rejected (cut.trans (by rw [written]))⟩

end

/-- A frame that belongs to the handshake. -/
def offerFrame : Frame := ⟨msgTypeEcdh, [1, 2, 3]⟩

theorem offerFrame_sendable : offerFrame.Sendable := ⟨by decide, by decide⟩

/-- Two handshake frames that arrive byte by byte, and bytes with a bad magic after them. -/
theorem handshake_frames_reassembled :
    (feed decryptNull parseNull (fun world _ => .ok world) openTunnel ()
        (([offerFrame, offerFrame].flatMap Frame.bytes).map fun byte => [byte])).Reassembles
          [offerFrame, offerFrame] ∧
      (feed decryptNull parseNull (fun world _ => .ok world) openTunnel ()
        [[offerFrame, offerFrame].flatMap Frame.bytes, List.replicate 8 0]).Rejects
          [offerFrame, offerFrame] "Bad magic: expected FF FE, got 0000" := by
  have sendable : ∀ frame ∈ [offerFrame, offerFrame], frame.Sendable := by
    simp [offerFrame_sendable]
  have spoken : ¬ openTunnel.SaysNull decryptNull parseNull offerFrame := by
    rintro ⟨_, -, session, -⟩
    exact absurd session (by decide)
  have holds := stream_reassembled_iff decryptNull parseNull (fun world _ => .ok world)
    (show openTunnel.hasSocket = true from rfl) rfl () sendable (encodeFrames_eq sendable)
  constructor
  · refine (holds.1 _ (by simp [← List.flatMap_def])).mpr ⟨?_, (), rfl⟩
    simp [spoken]
  · refine (holds.2 (List.replicate 8 0) _ _ (by rfl) (by simp)).mpr ⟨?_, (), rfl⟩
    simp [spoken]

/-- The session frame that says `null` keeps `onData` from the frame behind it. -/
theorem null_frame_keeps_the_next :
    ∃ bytes, encodeFrames [⟨msgTypeSession, nullCiphertext⟩, offerFrame] = some bytes ∧
      ¬ (feed decryptNull parseNull (fun world _ => .ok world) openTunnel () [bytes]).Reassembles
        [⟨msgTypeSession, nullCiphertext⟩, offerFrame] := by
  have sendable : ∀ frame ∈ [⟨msgTypeSession, nullCiphertext⟩, offerFrame], frame.Sendable := by
    simp only [List.forall_mem_cons]
    exact ⟨⟨by decide, by decide⟩, offerFrame_sendable, by simp⟩
  refine ⟨_, encodeFrames_eq sendable, ?_⟩
  rw [reassembles_iff _ _ _ rfl rfl sendable (by simp)]
  intro quiet
  exact quiet.1 _ List.mem_cons_self ⟨_, rfl, rfl, rfl⟩

end Tunnel
end Port
end AqaraLanLink
