import AqaraLanLink.Library.Endian

/-!
# Packets of the real-time transport protocol

Packets with the header of twelve bytes: version two, no padding, no extension and no contributing
sources.
-/

namespace Library
namespace Rtp

open Endian

structure Packet where
  /-- The marker and the type of the payload. -/
  kind : UInt8
  sequence : ℕ
  timestamp : ℕ
  /-- The source that the numbers and the clock belong to. -/
  source : ℕ
  payload : List UInt8
  deriving DecidableEq, Repr

/-- The numbers of a packet fit their fields. -/
structure Packet.Fits (packet : Packet) : Prop where
  sequence : packet.sequence < 2 ^ 16
  timestamp : packet.timestamp < 2 ^ 32
  source : packet.source < 2 ^ 32

def write (packet : Packet) : List UInt8 :=
  0x80 :: packet.kind :: (bigBytes 2 packet.sequence ++ (bigBytes 4 packet.timestamp ++
    (bigBytes 4 packet.source ++ packet.payload)))

def read (bytes : List UInt8) : Option Packet :=
  if bytes.length < 12 ∨ bytes.getD 0 0 ≠ 0x80 then none
  else some ⟨bytes.getD 1 0, ofBig ((bytes.drop 2).take 2), ofBig ((bytes.drop 4).take 4),
    ofBig ((bytes.drop 8).take 4), bytes.drop 12⟩

/-- A packet that is written is read again. -/
theorem read_write {packet : Packet} (fits : packet.Fits) : read (write packet) = some packet := by
  obtain ⟨kind, sequence, timestamp, source, payload⟩ := packet
  have long : 12 ≤ (write ⟨kind, sequence, timestamp, source, payload⟩).length := by
    simp only [write, List.length_cons, List.length_append, length_bigBytes]
    omega
  have first : (write ⟨kind, sequence, timestamp, source, payload⟩).getD 0 0 = 0x80 := rfl
  have second : (write ⟨kind, sequence, timestamp, source, payload⟩).getD 1 0 = kind := rfl
  have behindHead : (write ⟨kind, sequence, timestamp, source, payload⟩).drop 2 =
      bigBytes 2 sequence ++ (bigBytes 4 timestamp ++ (bigBytes 4 source ++ payload)) := rfl
  have behindSequence : (write ⟨kind, sequence, timestamp, source, payload⟩).drop 4 =
      bigBytes 4 timestamp ++ (bigBytes 4 source ++ payload) := by
    rw [show 4 = 2 + 2 from rfl, ← List.drop_drop, behindHead, List.drop_left' (length_bigBytes 2 _)]
  have behindTimestamp : (write ⟨kind, sequence, timestamp, source, payload⟩).drop 8 =
      bigBytes 4 source ++ payload := by
    rw [show 8 = 4 + 4 from rfl, ← List.drop_drop, behindSequence,
      List.drop_left' (length_bigBytes 4 _)]
  have behindSource : (write ⟨kind, sequence, timestamp, source, payload⟩).drop 12 = payload := by
    rw [show 12 = 8 + 4 from rfl, ← List.drop_drop, behindTimestamp,
      List.drop_left' (length_bigBytes 4 _)]
  rw [read, if_neg (not_or.mpr ⟨by omega, fun other => other first⟩), second, behindHead, behindSequence,
    behindTimestamp, behindSource, List.take_left' (length_bigBytes 2 _),
    List.take_left' (length_bigBytes 4 _), List.take_left' (length_bigBytes 4 _),
    ofBig_bigBytes fits.sequence, ofBig_bigBytes fits.timestamp, ofBig_bigBytes fits.source]

/-- Packets that are written alike are one packet. -/
theorem write_injective {first second : Packet} (firstFits : first.Fits) (secondFits : second.Fits)
    (same : write first = write second) : first = second := by
  have both := congrArg read same
  rw [read_write firstFits, read_write secondFits] at both
  exact Option.some.inj both

end Rtp
end Library
