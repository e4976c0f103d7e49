import AqaraLanLink.Library.Scanner
import Mathlib.Data.List.Induction
import Mathlib.Data.Nat.Bitwise

/-!
# Frames of the voice encoder

`extract_adts_frames` of `device/camera/protocol.py`, and how `device/camera/encoder.py` takes the
frames off what it reads from a running encoder process.
-/

namespace AqaraLanLink
namespace Reference
namespace TalkFrames

open Library Scanner

/-! ## Frames -/

/-- The twelve ones with which a frame begins. -/
def Syncs (rest : List UInt8) : Prop :=
  rest.getD 0 0 = 0xFF ∧ rest.getD 1 0 &&& 0xF0 = 0xF0

instance : DecidablePred Syncs := fun _ => inferInstanceAs (Decidable (_ ∧ _))

/-- `frame_len`. -/
def frameLen (rest : List UInt8) : ℕ :=
  (rest.getD 3 0 &&& 0x03).toNat <<< 11 ||| (rest.getD 4 0).toNat <<< 3 |||
    (rest.getD 5 0).toNat >>> 5

/-- One turn of the loop, at `rest = data[offset:]`. -/
def turn (rest : List UInt8) : Verdict :=
  -- `offset < len(data) - 7` fails.
  if rest.length ≤ 7 then .stop
  else if ¬ Syncs rest then .skip
  else if frameLen rest < 7 ∨ rest.length < frameLen rest then .stop
  else .take (frameLen rest)

/-- `extract_adts_frames`. -/
def extractAdtsFrames (data : List UInt8) : List (List UInt8) := records turn data

/-! ## The encoder -/

/-- What `write_pcm` and `flush` do with the buffer: the frames, with their places in a stream in
which the buffer begins at `place`, and the buffer that is kept. -/
def drain (buffer : List UInt8) (place : ℕ) : List (ℕ × List UInt8) × List UInt8 :=
  if buffer = [] then ([], buffer)
  else (scan turn buffer place 0, buffer.drop (covered (scan turn buffer place 0)))

/-- An encoder, with what it has read and what it has returned. -/
structure Session where
  received : List UInt8
  /-- The frames, with the places of their first bytes in what was received. -/
  returned : List (ℕ × List UInt8)
  /-- `_buffer`. -/
  buffer : List UInt8
  deriving DecidableEq, Repr

def Session.start : Session := ⟨[], [], []⟩

/-- Bytes are added to the buffer, and frames taken off it. -/
def Session.read (session : Session) (bytes : List UInt8) : Session :=
  let received := session.received ++ bytes
  let buffer := session.buffer ++ bytes
  let drained := drain buffer (received.length - buffer.length)
  ⟨received, session.returned ++ drained.1, drained.2⟩

/-- `write_pcm`, with all that its reads give; without, writing raises `BrokenPipeError`. -/
def Session.writePcm (session : Session) : Option (List UInt8) → Session
  | none => session
  | some chunks => session.read chunks

/-- `flush`, with what `communicate` returns, which is nothing when it runs out of time. -/
def Session.flush (session : Session) (remaining : List UInt8) : Session := session.read remaining

/-- Several writes. -/
def Session.write (writes : List (Option (List UInt8))) : Session :=
  writes.foldl Session.writePcm .start

/-- All that is read in several writes and a flush. -/
def stream (writes : List (Option (List UInt8))) (remaining : List UInt8) : List UInt8 :=
  (writes.map fun chunks => chunks.getD []).flatten ++ remaining

/-! ## What the frames of a stream are -/

/-- A frame begins here, and is complete. -/
def Begins (rest : List UInt8) : Prop :=
  Syncs rest ∧ 7 ≤ frameLen rest ∧ frameLen rest ≤ rest.length

instance : DecidablePred Begins := fun _ => inferInstanceAs (Decidable (_ ∧ _))

/-- A complete frame is taken; anything else is passed over. -/
def ideal (rest : List UInt8) : Verdict := if Begins rest then .take (frameLen rest) else .skip

/-- The complete frames of a stream, from left to right. -/
def completeFrames (stream : List UInt8) : List (List UInt8) := records ideal stream

/-- A frame. -/
def IsFrame (frame : List UInt8) : Prop := Begins frame ∧ frameLen frame = frame.length

/-- No frame is kept that was returned, and less than a longest frame is kept. -/
structure Tidy (session : Session) : Prop where
  /-- The frames end where the buffer begins, or before. -/
  apart : ∀ frame ∈ session.returned,
    frame.1 + frame.2.length + session.buffer.length ≤ session.received.length
  bounded : session.buffer.length < 8191

/-- Frames one behind the other, the last longer than its header if nothing follows it, and then
less than a longest frame in which none begins. -/
structure Framed (stream : List UInt8) (frames : List (List UInt8)) (tail : List UInt8) : Prop where
  whole : stream = frames.flatten ++ tail
  each : ∀ frame ∈ frames, IsFrame frame
  silent : ∀ offset, ¬ Begins (tail.drop offset)
  short : tail.length < 8191
  last : tail = [] → ∀ frame ∈ frames.getLast?, frame.length ≠ 7

/-! ## Headers -/

theorem frameLen_lt (rest : List UInt8) : frameLen rest < 8192 := by
  have high : (rest.getD 3 0 &&& 0x03).toNat <<< 11 < 2 ^ 13 := by
    rw [UInt8.toNat_and, Nat.shiftLeft_eq]
    have low : (rest.getD 3 0).toNat &&& UInt8.toNat 0x03 ≤ 3 := Nat.and_le_right
    omega
  have middle : (rest.getD 4 0).toNat <<< 3 < 2 ^ 13 := by
    have octet := (rest.getD 4 0).toNat_lt
    rw [Nat.shiftLeft_eq]
    omega
  have low : (rest.getD 5 0).toNat >>> 5 < 2 ^ 13 := by
    have octet := (rest.getD 5 0).toNat_lt
    have less := Nat.shiftRight_le (rest.getD 5 0).toNat 5
    omega
  exact Nat.or_lt_two_pow (Nat.or_lt_two_pow high middle) low

theorem getD_append {front : List UInt8} {position : ℕ} (inside : position < front.length)
    (rest : List UInt8) : (front ++ rest).getD position 0 = front.getD position 0 := by
  rw [List.getD_eq_getElem?_getD, List.getD_eq_getElem?_getD, List.getElem?_append_left inside]

/-- A header says the same whatever follows it. -/
theorem header_append {front : List UInt8} (long : 6 ≤ front.length) (rest : List UInt8) :
    (Syncs (front ++ rest) ↔ Syncs front) ∧ frameLen (front ++ rest) = frameLen front := by
  constructor
  · rw [Syncs, Syncs, getD_append (by omega), getD_append (by omega)]
  · rw [frameLen, frameLen, getD_append (by omega), getD_append (by omega), getD_append (by omega)]

theorem begins_append {front : List UInt8} (begins : Begins front) (rest : List UInt8) :
    Begins (front ++ rest) ∧ frameLen (front ++ rest) = frameLen front := by
  obtain ⟨syncs, long, inside⟩ := begins
  obtain ⟨same, length⟩ := header_append (show 6 ≤ front.length by omega) rest
  refine ⟨⟨same.mpr syncs, by omega, ?_⟩, length⟩
  rw [List.length_append]
  omega

theorem turn_of_take {rest : List UInt8} {length : ℕ} (takes : turn rest = .take length) :
    Begins rest ∧ frameLen rest = length ∧ 7 < rest.length := by
  rw [turn] at takes
  split at takes
  · cases takes
  split at takes
  · cases takes
  split at takes
  · cases takes
  next long syncs possible =>
  cases takes
  exact ⟨⟨not_not.mp syncs, by omega, by omega⟩, rfl, by omega⟩

theorem sound_turn : Sound turn := by
  intro rest length takes
  obtain ⟨⟨-, positive, inside⟩, same, -⟩ := turn_of_take takes
  omega

theorem sound_ideal : Sound ideal := by
  intro rest length takes
  rw [ideal] at takes
  split at takes
  · next begins =>
    cases takes
    exact ⟨by have positive := begins.2.1; omega, begins.2.2⟩
  · cases takes

theorem IsFrame.length_pos {frame : List UInt8} (isFrame : IsFrame frame) : 7 ≤ frame.length := by
  obtain ⟨⟨-, long, -⟩, same⟩ := isFrame
  omega

/-- A frame is taken whatever follows it, by the ideal scan. -/
theorem ideal_append {frame : List UInt8} (isFrame : IsFrame frame) (rest : List UInt8) :
    ideal (frame ++ rest) = .take frame.length := by
  obtain ⟨begins, same⟩ := begins_append isFrame.1 rest
  rw [ideal, if_pos begins, same, isFrame.2]

/-- And by the loop, when there is more than its header. -/
theorem turn_append {frame : List UInt8} (isFrame : IsFrame frame) {rest : List UInt8}
    (long : 7 < (frame ++ rest).length) : turn (frame ++ rest) = .take frame.length := by
  obtain ⟨⟨syncs, positive, inside⟩, same⟩ := begins_append isFrame.1 rest
  rw [turn, if_neg (by omega), if_neg (not_not.mpr syncs), if_neg (by omega), same, isFrame.2]

/-- While a frame is incomplete, the loop stops at it. -/
theorem turn_of_incomplete {front rest : List UInt8} (isFrame : IsFrame (front ++ rest))
    (some : rest ≠ []) : turn front = .stop := by
  rw [turn]
  split
  · rfl
  next long =>
  obtain ⟨⟨syncs, positive, inside⟩, whole⟩ := isFrame
  obtain ⟨same, length⟩ := header_append (show 6 ≤ front.length by omega) rest
  have more := List.length_pos_iff.mpr some
  rw [List.length_append] at whole
  rw [if_neg (not_not.mpr (same.mp syncs)), if_pos (by omega)]

/-- What the loop takes is a frame. -/
theorem isFrame_take {rest : List UInt8} {length : ℕ} (takes : turn rest = .take length) :
    IsFrame (rest.take length) := by
  obtain ⟨⟨syncs, positive, inside⟩, same, -⟩ := turn_of_take takes
  have size : (rest.take length).length = length := by
    rw [List.length_take]
    omega
  obtain ⟨sync, frame⟩ := header_append (show 6 ≤ (rest.take length).length by omega)
    (rest.drop length)
  rw [List.take_append_drop] at sync frame
  exact ⟨⟨sync.mp syncs, by omega, by omega⟩, by omega⟩

/-! ## One scan -/

theorem isFrame_of_mem_scan (text : List UInt8) (place : ℕ) :
    ∀ frame ∈ scan turn text place 0, IsFrame frame.2 := by
  induction text, place using scan_induction sound_turn with
  | nil place => exact fun _ member => absurd member List.not_mem_nil
  | stop text place stops =>
      rw [scan_of_stop stops]
      exact fun _ member => absurd member List.not_mem_nil
  | skip head tail place skips induction =>
      rw [scan_of_skip skips]
      exact induction
  | take text place length takes positive inside induction =>
      rw [scan_of_take sound_turn takes]
      exact List.forall_mem_cons.mpr ⟨isFrame_take takes, induction⟩

/-- A frame at the very end is longer than its header. -/
theorem long_of_covered (text : List UInt8) (place : ℕ) :
    text.length = covered (scan turn text place 0) →
      ∀ frame ∈ (scan turn text place 0).getLast?, 7 < frame.2.length := by
  induction text, place using scan_induction sound_turn with
  | nil place =>
      intro _ frame member
      cases member
  | stop text place stops =>
      rw [scan_of_stop stops]
      intro _ frame member
      cases member
  | skip head tail place skips induction =>
      have less := covered_le sound_turn tail (place + 1)
      rw [scan_of_skip skips, List.length_cons]
      intro all
      omega
  | take text place length takes positive inside induction =>
      have long := (turn_of_take takes).2.2
      rw [List.length_drop] at induction
      rw [scan_of_take sound_turn takes, covered_cons, List.length_take, Nat.min_eq_left inside]
      intro all
      cases others : scan turn (text.drop length) (place + length) 0 with
      | nil =>
          rw [others, covered_nil] at all
          intro frame member
          rw [List.getLast?_singleton, Option.mem_some_iff] at member
          rw [← member, List.length_take]
          omega
      | cons next rest =>
          rw [others] at all induction
          rw [List.getLast?_cons_cons]
          exact induction (by omega)

/-- Nothing is taken from the front of a text in which no frame begins. -/
theorem scan_of_silent (text : List UInt8) (place : ℕ) :
    ∀ more, (∀ offset, ¬ Begins ((text ++ more).drop offset)) → scan turn text place 0 = [] := by
  induction text, place using scan_induction sound_turn with
  | nil place => exact fun _ _ => rfl
  | stop text place stops => exact fun _ _ => scan_of_stop stops place
  | skip head tail place skips induction =>
      intro more silent
      rw [scan_of_skip skips]
      exact induction more fun offset => silent (offset + 1)
  | take text place length takes positive inside induction =>
      intro more silent
      exact absurd (begins_append (turn_of_take takes).1 more).1 (silent 0)

/-- Bytes that hold the first frame whole, with something behind it or nothing. -/
theorem scan_front_of_whole {frame rest : List UInt8} {frames : List (List UInt8)}
    {tail text more : List UInt8} (framed : Framed (text ++ more) (frame :: frames) tail)
    (split : text = frame ++ rest) (others : rest ++ more = frames.flatten ++ tail) (place : ℕ)
    (later : Framed (rest ++ more) frames tail → ∀ place, ∃ taken left kept,
      frames = taken ++ left ∧ scan turn rest place 0 = chain place taken ∧
        rest = taken.flatten ++ kept ∧ kept.length < 8191 ∧ (more = [] → left = [])) :
    ∃ taken left kept, frame :: frames = taken ++ left ∧
      scan turn text place 0 = chain place taken ∧ text = taken.flatten ++ kept ∧
        kept.length < 8191 ∧ (more = [] → left = []) := by
  have isFrame := framed.each frame List.mem_cons_self
  by_cases long : 7 < text.length
  · have takes : turn text = .take frame.length := by
      rw [split] at long ⊢
      exact turn_append isFrame long
    have behind : Framed (rest ++ more) frames tail := by
      refine ⟨others, fun other member => framed.each other (List.mem_cons_of_mem _ member),
        framed.silent, framed.short, fun empty last member => ?_⟩
      refine framed.last empty last ?_
      cases frames with
      | nil => cases member
      | cons next frames => rwa [List.getLast?_cons_cons]
    obtain ⟨taken, left, kept, parts, found, front, short, all⟩ :=
      later behind (place + frame.length)
    refine ⟨frame :: taken, left, kept, by rw [parts]; rfl, ?_, ?_, short, all⟩
    · rw [scan_of_take sound_turn takes, chain, split, List.take_left, List.drop_left, found]
    · rw [split, front, List.flatten_cons, List.append_assoc]
  · refine ⟨[], frame :: frames, text, rfl, ?_, rfl, by omega, fun ends => ?_⟩
    · exact scan_of_stop (by rw [turn, if_pos (not_lt.mp long)]) place
    · have header := isFrame.length_pos
      rw [split, List.length_append] at long
      have alone : rest = [] := List.length_eq_zero_iff.mp (by omega)
      rw [alone, ends] at others
      obtain ⟨none, empty⟩ := List.append_eq_nil_iff.mp others.symm
      cases frames with
      | nil =>
          have size := frameLen_lt frame
          rw [isFrame.2] at size
          exact absurd (by omega) (framed.last empty frame rfl)
      | cons next frames =>
          have longer := (framed.each next (by simp)).length_pos
          rw [List.flatten_cons, List.append_eq_nil_iff] at none
          rw [none.1] at longer
          simp at longer

/-- The front of framed bytes: some of the frames are taken, one behind the other, and less than a
longest frame is left; of the whole, all frames are. -/
theorem scan_front {frames : List (List UInt8)} {tail text more : List UInt8}
    (framed : Framed (text ++ more) frames tail) (place : ℕ) :
    ∃ taken left rest, frames = taken ++ left ∧ scan turn text place 0 = chain place taken ∧
      text = taken.flatten ++ rest ∧ rest.length < 8191 ∧ (more = [] → left = []) := by
  induction frames generalizing text place with
  | nil =>
      have silent := framed.silent
      have short := framed.short
      have whole : text ++ more = tail := framed.whole
      rw [← whole] at silent short
      refine ⟨[], [], text, rfl, scan_of_silent text place more silent, rfl, ?_, fun _ => rfl⟩
      rw [List.length_append] at short
      omega
  | cons frame frames induction =>
      have isFrame := framed.each frame List.mem_cons_self
      have whole := framed.whole
      rw [List.flatten_cons, List.append_assoc] at whole
      rcases List.append_eq_append_iff.mp whole with
        ⟨missing, split, others⟩ | ⟨rest, split, others⟩
      · by_cases whole : missing = []
        · rw [whole, List.append_nil] at split
          rw [whole, List.nil_append] at others
          have ends : text = frame ++ [] := by rw [split, List.append_nil]
          have behind : [] ++ more = frames.flatten ++ tail := others
          exact scan_front_of_whole framed ends behind place induction
        · have stops : turn text = .stop := turn_of_incomplete (split ▸ isFrame) whole
          have some := List.length_pos_iff.mpr whole
          have size := frameLen_lt frame
          rw [isFrame.2, split, List.length_append] at size
          refine ⟨[], frame :: frames, text, rfl, scan_of_stop stops place, rfl, by omega, ?_⟩
          intro ends
          rw [ends] at others
          exact absurd (List.append_eq_nil_iff.mp others.symm).1 whole
      · exact scan_front_of_whole framed split others.symm place induction

/-! ## The ideal frames -/

theorem scan_ideal_eq_nil_iff (text : List UInt8) (place : ℕ) :
    scan ideal text place 0 = [] ↔ ∀ offset, ¬ Begins (text.drop offset) := by
  have nothing : ¬ Begins [] := fun begins => by
    have long := begins.2.1
    have short := begins.2.2
    rw [List.length_nil] at short
    omega
  induction text generalizing place with
  | nil =>
      refine ⟨fun _ offset => ?_, fun _ => rfl⟩
      rwa [List.drop_nil]
  | cons head tail induction =>
      by_cases begins : Begins (head :: tail)
      · have takes : ideal (head :: tail) = .take (frameLen (head :: tail)) := if_pos begins
        rw [scan_of_take sound_ideal takes]
        exact ⟨fun none => (by cases none), fun silent => absurd begins (silent 0)⟩
      · have skips : ideal (head :: tail) = .skip := if_neg begins
        rw [scan_of_skip skips]
        refine (induction (place + 1)).trans ?_
        constructor
        · intro silent offset
          cases offset with
          | zero => exact begins
          | succ offset => exact silent offset
        · exact fun silent offset => silent (offset + 1)

/-- Frames in front are the first complete frames. -/
theorem completeFrames_append {frames : List (List UInt8)} (each : ∀ frame ∈ frames, IsFrame frame)
    (tail : List UInt8) : completeFrames (frames.flatten ++ tail) = frames ++
      (scan ideal tail frames.flatten.length 0).map Prod.snd := by
  have taken := scan_flatten_append sound_ideal
    (fun frame member rest => ideal_append (each frame member) rest) tail 0
  rw [completeFrames, records, taken, List.map_append, map_chain, Nat.zero_add]

/-! ## Runs -/

theorem drain_eq (buffer : List UInt8) (place : ℕ) :
    drain buffer place =
      (scan turn buffer place 0, buffer.drop (covered (scan turn buffer place 0))) := by
  rw [drain]
  split
  · next empty =>
    rw [empty]
    rfl
  · rfl

theorem received_write (writes : List (Option (List UInt8))) :
    (Session.write writes).received = (writes.map fun chunks => chunks.getD []).flatten := by
  induction writes using List.reverseRecOn with
  | nil => rfl
  | append_singleton writes chunks induction =>
      rw [Session.write, List.foldl_append, List.foldl_cons, List.foldl_nil, ← Session.write,
        List.map_append, List.flatten_append, ← induction]
      cases chunks with
      | none => simp [Session.writePcm]
      | some chunks => simp [Session.writePcm, Session.read]

theorem received_flush (writes : List (Option (List UInt8))) (remaining : List UInt8) :
    ((Session.write writes).flush remaining).received = stream writes remaining := by
  rw [Session.flush, Session.read, received_write, stream]

/-- A read, when the buffer begins behind some front of what was received. -/
theorem read_eq {session : Session} {front : List UInt8}
    (parts : session.received = front ++ session.buffer) (bytes : List UInt8) :
    session.read bytes =
      let found := scan turn (session.buffer ++ bytes) front.length 0
      ⟨session.received ++ bytes, session.returned ++ found,
        (session.buffer ++ bytes).drop (covered found)⟩ := by
  have place : (session.received ++ bytes).length - (session.buffer ++ bytes).length =
      front.length := by
    rw [parts]
    simp only [List.length_append]
    omega
  simp only [Session.read, drain_eq, place]

/-- What was received is what was returned and the buffer. -/
structure Aligned (session : Session) : Prop where
  parts : session.received = (session.returned.map Prod.snd).flatten ++ session.buffer
  each : ∀ frame ∈ session.returned, IsFrame frame.2
  last : session.buffer = [] → ∀ frame ∈ session.returned.getLast?, frame.2.length ≠ 7

/-- A read after which no returned frame is kept has passed nothing over. -/
theorem Aligned.read {session : Session} (aligned : Aligned session) {bytes : List UInt8}
    (tidy : Tidy (session.read bytes)) : Aligned (session.read bytes) := by
  obtain ⟨parts, each, last⟩ := aligned
  obtain ⟨apart, -⟩ := tidy
  have length := congrArg List.length parts
  rw [read_eq parts] at apart ⊢
  dsimp only at apart ⊢
  generalize found : scan turn (session.buffer ++ bytes)
    (session.returned.map Prod.snd).flatten.length 0 = frames at apart ⊢
  have inside := covered_le sound_turn (session.buffer ++ bytes)
    (session.returned.map Prod.snd).flatten.length
  have front := eq_flatten_append sound_turn (session.buffer ++ bytes)
    (session.returned.map Prod.snd).flatten.length
  have frame := isFrame_of_mem_scan (session.buffer ++ bytes)
    (session.returned.map Prod.snd).flatten.length
  have long := long_of_covered (session.buffer ++ bytes)
    (session.returned.map Prod.snd).flatten.length
  rw [found] at inside front frame long
  refine ⟨?_, ?_, ?_⟩
  · have split := front fun record member => by
      have less := apart record (List.mem_append_right _ member)
      simp only [List.length_append, List.length_drop] at less inside length
      omega
    rw [parts, List.append_assoc, List.map_append, List.flatten_append, List.append_assoc, ← split]
  · intro record member
    rcases List.mem_append.mp member with before | now
    · exact each record before
    · exact frame record now
  · intro empty record member
    rw [List.drop_eq_nil_iff] at empty
    cases frames with
    | nil =>
        rw [covered_nil, Nat.le_zero, List.length_eq_zero_iff, List.append_eq_nil_iff] at empty
        rw [List.append_nil] at member
        exact last empty.1 record member
    | cons next frames =>
        rw [List.getLast?_append_of_ne_nil _ (List.cons_ne_nil next frames)] at member
        have more := long (Nat.le_antisymm empty inside) record member
        omega

/-- Frames have been taken one behind the other from the front of framed bytes. -/
structure Consumed (frames : List (List UInt8)) (tail : List UInt8) (session : Session)
    (more : List UInt8) : Prop where
  framed : Framed (session.received ++ more) frames tail
  parts : ∃ taken left, frames = taken ++ left ∧
    session.received = taken.flatten ++ session.buffer ∧ session.returned = chain 0 taken
  short : session.buffer.length < 8191

variable {frames : List (List UInt8)} {tail more bytes : List UInt8} {session : Session}

theorem Consumed.tidy (consumed : Consumed frames tail session more) : Tidy session := by
  obtain ⟨taken, left, -, received, returned⟩ := consumed.parts
  refine ⟨fun frame member => ?_, consumed.short⟩
  rw [returned] at member
  have inside := le_of_mem_chain member
  rw [received, List.length_append]
  omega

/-- A read takes the next frames, and the last read takes all. -/
theorem Consumed.read (consumed : Consumed frames tail session (bytes ++ more)) :
    Consumed frames tail (session.read bytes) more ∧
      (more = [] → (session.read bytes).returned.map Prod.snd = frames) := by
  obtain ⟨framed, ⟨taken, left, split, received, returned⟩, short⟩ := consumed
  have whole := framed.whole
  rw [received, split, List.flatten_append, List.append_assoc, List.append_assoc,
    List.append_cancel_left_eq, ← List.append_assoc] at whole
  have behind : Framed (session.buffer ++ bytes ++ more) left tail := by
    refine ⟨whole, fun frame member => ?_, framed.silent, framed.short, fun empty last member => ?_⟩
    · exact framed.each frame (split ▸ List.mem_append_right taken member)
    · refine framed.last empty last ?_
      cases left with
      | nil => cases member
      | cons next left =>
          rwa [split, List.getLast?_append_of_ne_nil taken (List.cons_ne_nil next left)]
  obtain ⟨now, later, rest, parts, found, front, less, all⟩ :=
    scan_front behind taken.flatten.length
  have kept : (session.buffer ++ bytes).drop (covered (chain taken.flatten.length now)) = rest := by
    rw [covered_chain, front, List.drop_left]
  rw [read_eq received, found]
  dsimp only
  rw [kept]
  refine ⟨⟨?_, ⟨taken ++ now, later, ?_, ?_, ?_⟩, less⟩, fun ends => ?_⟩
  · rwa [List.append_assoc]
  · rw [split, parts, List.append_assoc]
  · rw [received, List.append_assoc, front, List.flatten_append, List.append_assoc]
  · rw [returned, chain_append, Nat.zero_add]
  · rw [returned, List.map_append, map_chain, map_chain, split, parts, all ends, List.append_nil]

/-- While the writes of a framed stream go on. -/
theorem consumed_write {writes : List (Option (List UInt8))}
    (framed : Framed ((writes.map fun chunks => chunks.getD []).flatten ++ more) frames tail) :
    Consumed frames tail (Session.write writes) more := by
  induction writes using List.reverseRecOn generalizing more with
  | nil => exact ⟨framed, ⟨[], frames, rfl, rfl, rfl⟩, Nat.zero_lt_succ _⟩
  | append_singleton writes chunks induction =>
      rw [Session.write, List.foldl_append, List.foldl_cons, List.foldl_nil, ← Session.write]
      rw [List.map_append, List.flatten_append, List.append_assoc] at framed
      cases chunks with
      | none =>
          have consumed := induction framed
          exact consumed
      | some chunks =>
          simp only [List.map_cons, List.map_nil, Option.getD_some, List.flatten_cons,
            List.flatten_nil, List.append_nil] at framed
          exact (induction framed).read.1

theorem aligned_write {writes : List (Option (List UInt8))}
    (tidy : ∀ earlier later, writes = earlier ++ later → Tidy (Session.write earlier)) :
    Aligned (Session.write writes) := by
  induction writes using List.reverseRecOn with
  | nil =>
      exact ⟨rfl, fun _ member => absurd member List.not_mem_nil, fun _ _ member => by cases member⟩
  | append_singleton writes chunks induction =>
      have now := tidy (writes ++ [chunks]) [] (List.append_nil _).symm
      have aligned := induction fun earlier later split =>
        tidy earlier (later ++ [chunks]) (by rw [split, List.append_assoc])
      rw [Session.write, List.foldl_append, List.foldl_cons, List.foldl_nil, ← Session.write] at *
      cases chunks with
      | none => exact aligned
      | some chunks => exact aligned.read now

/-- The frames of several writes and a flush are the complete frames of the stream, and the buffer
stays tidy. -/
structure Extracts (writes : List (Option (List UInt8))) (remaining : List UInt8) : Prop where
  frames : ((Session.write writes).flush remaining).returned.map Prod.snd =
    completeFrames (stream writes remaining)
  tidy : ∀ earlier later, writes = earlier ++ later → Tidy (Session.write earlier)
  last : Tidy ((Session.write writes).flush remaining)

/-- Frames are extracted exactly from framed streams, however they are cut. -/
theorem extracts_iff (writes : List (Option (List UInt8))) (remaining : List UInt8) :
    Extracts writes remaining ↔ ∃ frames tail, Framed (stream writes remaining) frames tail := by
  constructor
  · intro extracts
    have aligned : Aligned ((Session.write writes).flush remaining) :=
      (aligned_write extracts.tidy).read extracts.last
    have whole := aligned.parts
    have each : ∀ frame ∈ ((Session.write writes).flush remaining).returned.map Prod.snd,
        IsFrame frame := List.forall_mem_map.mpr aligned.each
    have all := extracts.frames
    rw [received_flush] at whole
    rw [whole, completeFrames_append each, List.self_eq_append_right, List.map_eq_nil_iff] at all
    have silent := (scan_ideal_eq_nil_iff _ _).mp all
    refine ⟨_, _, whole, each, silent, extracts.last.bounded, fun empty frame member => ?_⟩
    rw [List.getLast?_map, Option.mem_def, Option.map_eq_some_iff] at member
    obtain ⟨record, there, same⟩ := member
    rw [← same]
    exact aligned.last empty record there
  · intro ⟨frames, tail, framed⟩
    rw [stream] at framed
    have consumed := consumed_write framed
    have ended : Consumed frames tail (Session.write writes) (remaining ++ []) := by
      rwa [List.append_nil]
    obtain ⟨done, all⟩ := ended.read
    refine ⟨?_, fun earlier later split => ?_, done.tidy⟩
    · rw [Session.flush, all rfl, stream, framed.whole, completeFrames_append framed.each,
        (scan_ideal_eq_nil_iff tail _).mpr framed.silent, List.map_nil, List.append_nil]
    · rw [split, List.map_append, List.flatten_append, List.append_assoc] at framed
      exact (consumed_write framed).tidy

/-- A frame of eight bytes. -/
def frame8 : List UInt8 := [0xFF, 0xF1, 0x50, 0x40, 0x01, 0x00, 0x00, 0xAA]

/-- Behind nine bytes that begin no frame, it is returned by the write and again by the flush. -/
theorem frame_returned_twice : ¬ ∀ writes remaining, Extracts writes remaining := by
  intro always
  have extracts := (always [some (List.replicate 9 0 ++ frame8 ++ [0])] []).frames
  have twice : ((Session.write [some (List.replicate 9 0 ++ frame8 ++ [0])]).flush
      []).returned.map Prod.snd = [frame8, frame8] := by
    decide +kernel
  have once : completeFrames (stream [some (List.replicate 9 0 ++ frame8 ++ [0])] []) =
      [frame8] := by
    decide +kernel
  rw [twice, once] at extracts
  cases extracts

end TalkFrames
end Reference
end AqaraLanLink
