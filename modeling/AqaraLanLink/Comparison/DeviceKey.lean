import AqaraLanLink.Comparison.Handshake
import Mathlib.Data.Set.Card
import Mathlib.Data.Set.Finite.Range
import Mathlib.Data.Fintype.BigOperators
import Mathlib.Data.LawfulXor.Basic
import Mathlib.Tactic.IntervalCases

/-!
# The shape of the device keys

The passes that make a device key read and write inside their buffers, and what they leave is six
bytes and their CRC, spread over sixteen.
-/

namespace AqaraLanLink
namespace Comparison

open Port

/-! ## Six bytes and their CRC -/

/-- The last two passes: six bytes and the two of their CRC, low byte first, become a key. -/
def expand (key6 : List UInt8) (low high : UInt8) : List UInt8 :=
  let seed := key6 ++ [low, high] ++ List.replicate 8 0
  let anchor := seed.getD 7 0
  let seed := (List.range 8).foldl (fun seed i =>
    seed.set (15 - i) (seed.getD i 0 ^^^ anchor)) seed
  (List.range 16).foldl (fun seed i =>
    seed.set i (seed.getD i 0 ^^^ seed.getD (if i = 15 then 0 else i + 1) 0)) seed

/-- The low and the high byte of a CRC. -/
def lowByte (crc : ℕ) : UInt8 := .ofNat (crc % 256)
def highByte (crc : ℕ) : UInt8 := .ofNat (crc / 256 % 256)

/-- The key that the six bytes make. -/
def keyOf (key6 : List UInt8) : List UInt8 :=
  expand key6 (lowByte (crc16Ccitt key6)) (highByte (crc16Ccitt key6))

theorem deriveDeviceKey_eq (deviceId : String) :
    deriveDeviceKey deviceId = keyOf (deviceKey6 (asciiBuffer deviceId)) := rfl

theorem length_foldl_set {buffer : List UInt8} (places : List ℕ) (place : ℕ → ℕ)
    (value : List UInt8 → ℕ → UInt8) :
    (places.foldl (fun buffer i => buffer.set (place i) (value buffer i)) buffer).length =
      buffer.length := by
  induction places generalizing buffer with
  | nil => rfl
  | cons i places induction => rw [List.foldl_cons, induction, List.length_set]

theorem length_deviceKey6 (original : List UInt8) : (deviceKey6 original).length = 6 := by
  rw [deviceKey6, length_foldl_set, length_foldl_set, List.length_replicate]

theorem xor_both (left right anchor : UInt8) :
    (left ^^^ anchor) ^^^ (right ^^^ anchor) = right ^^^ left := by
  rw [UInt8.xor_comm right anchor, UInt8.xor_assoc, xor_cancel_left, UInt8.xor_comm]

theorem xor_first (first second anchor : UInt8) :
    (first ^^^ anchor) ^^^ (first ^^^ second) = second ^^^ anchor := by
  rw [UInt8.xor_comm first anchor, UInt8.xor_assoc, xor_cancel_left, UInt8.xor_comm]

theorem xor_chain (left middle right : UInt8) :
    (left ^^^ middle) ^^^ (middle ^^^ right) = left ^^^ right := by
  rw [UInt8.xor_assoc, xor_cancel_left]

/-- What the last two passes leave of six bytes. -/
theorem expand_six (a b c d e f low high : UInt8) :
    expand [a, b, c, d, e, f] low high =
      [a ^^^ b, b ^^^ c, c ^^^ d, d ^^^ e, e ^^^ f, f ^^^ low, low ^^^ high, high,
        low ^^^ high, f ^^^ low, e ^^^ f, d ^^^ e, c ^^^ d, b ^^^ c, a ^^^ b, b ^^^ high] := by
  simp [expand, List.range_succ, xor_both, xor_first]

/-- The six bytes that a key was made of. -/
def recovered (key : List UInt8) : List UInt8 :=
  let b := key.getD 15 0 ^^^ key.getD 7 0
  let a := key.getD 0 0 ^^^ b
  let c := b ^^^ key.getD 1 0
  let d := c ^^^ key.getD 2 0
  let e := d ^^^ key.getD 3 0
  let f := e ^^^ key.getD 4 0
  [a, b, c, d, e, f]

/-- What every device key looks like. -/
structure Shaped (key : List UInt8) : Prop where
  length : key.length = 16
  /-- The key reads the same around its middle, but for its last byte. -/
  mirrored : ∀ i ≤ 6, key.getD (14 - i) 0 = key.getD i 0
  /-- The last byte is the exclusive or of six others. -/
  last : key.getD 15 0 = key.getD 1 0 ^^^ key.getD 2 0 ^^^ key.getD 3 0 ^^^ key.getD 4 0 ^^^
    key.getD 5 0 ^^^ key.getD 6 0
  /-- The bytes around the middle are the CRC of the recovered six. -/
  crc : highByte (crc16Ccitt (recovered key)) = key.getD 7 0 ∧
    lowByte (crc16Ccitt (recovered key)) = key.getD 6 0 ^^^ key.getD 7 0
  /-- The recovered six make the key. -/
  determined : keyOf (recovered key) = key

/-- Six bytes come back out of the key that they make. -/
theorem recovered_expand (a b c d e f low high : UInt8) :
    recovered (expand [a, b, c, d, e, f] low high) = [a, b, c, d, e, f] := by
  rw [expand_six]
  simp [recovered]

theorem exists_cons {count : ℕ} {data : List UInt8} (length : data.length = count + 1) :
    ∃ byte rest, data = byte :: rest ∧ rest.length = count := by
  obtain ⟨byte, rest, rfl⟩ := List.exists_of_length_succ data length
  exact ⟨byte, rest, rfl, Nat.succ.inj length⟩

theorem exists_six {key6 : List UInt8} (length : key6.length = 6) :
    ∃ a b c d e f, key6 = [a, b, c, d, e, f] := by
  obtain ⟨a, after, rfl, five⟩ := exists_cons length
  obtain ⟨b, after, rfl, four⟩ := exists_cons five
  obtain ⟨c, after, rfl, three⟩ := exists_cons four
  obtain ⟨d, after, rfl, two⟩ := exists_cons three
  obtain ⟨e, after, rfl, one⟩ := exists_cons two
  obtain ⟨f, after, rfl, zero⟩ := exists_cons one
  exact ⟨a, b, c, d, e, f, by rw [List.length_eq_zero_iff.mp zero]⟩

theorem shaped_keyOf {key6 : List UInt8} (length : key6.length = 6) : Shaped (keyOf key6) := by
  obtain ⟨a, b, c, d, e, f, rfl⟩ := exists_six length
  have back : recovered (keyOf [a, b, c, d, e, f]) = [a, b, c, d, e, f] := recovered_expand ..
  have entries := expand_six a b c d e f (lowByte (crc16Ccitt [a, b, c, d, e, f]))
    (highByte (crc16Ccitt [a, b, c, d, e, f]))
  have made : keyOf [a, b, c, d, e, f] = expand [a, b, c, d, e, f]
    (lowByte (crc16Ccitt [a, b, c, d, e, f])) (highByte (crc16Ccitt [a, b, c, d, e, f])) := rfl
  rw [← made] at entries
  refine ⟨?_, ?_, ?_, ?_, by rw [back]⟩
  · rw [entries]
    rfl
  · intro i small
    rw [entries]
    interval_cases i <;> rfl
  · rw [entries]
    simp [xor_chain]
  · rw [back, entries]
    simp

/-! ## Inside the buffers -/

/-- `buffer[index]`, unless the index is outside. -/
def read (buffer : List UInt8) (index : ℤ) : Option UInt8 :=
  if 0 ≤ index then buffer[index.toNat]? else none

/-- `buffer[index] = value`, unless the index is outside. -/
def write (buffer : List UInt8) (index : ℤ) (value : UInt8) : Option (List UInt8) :=
  if 0 ≤ index ∧ index < buffer.length then some (buffer.set index.toNat value) else none

/-- The turns of the six passes, with every index checked; both implementations make them. -/
def checkedTurn1 (original : List UInt8) (length : ℤ) (buf : List UInt8) (i : ℕ) :
    Option (List UInt8) := do
  let here ← read original i
  let next ← read original (i + 1)
  let tail ← read buf (length - 1 - i)
  write buf i ((here ^^^ next) + tail)

def checkedTurn2 (length half : ℤ) (buf : List UInt8) (i : ℕ) : Option (List UInt8) := do
  let first ← read buf i
  let middle ← read buf (i + half - 1)
  write buf (length - 1 - i) (first ^^^ middle)

def checkedTurn3 (buf : List UInt8) (length : ℤ) (key6 : List UInt8) (i : ℕ) :
    Option (List UInt8) := do
  let held ← read key6 (i % 6)
  let back ← read buf (length - 1 - i)
  write key6 (i % 6) (held ^^^ back)

def checkedTurn4 (key6 : List UInt8) (i : ℕ) : Option (List UInt8) := do
  let held ← read key6 i
  let mirror ← read key6 (5 - i)
  let across ← read key6 ((i + 3) % 6)
  write key6 i (held + (mirror ^^^ across))

def checkedTurn5 (anchor : UInt8) (seed : List UInt8) (i : ℕ) : Option (List UInt8) := do
  let byte ← read seed i
  write seed (15 - i) (byte ^^^ anchor)

def checkedTurn6 (seed : List UInt8) (i : ℕ) : Option (List UInt8) := do
  let byte ← read seed i
  let next ← read seed (if i = 15 then 0 else i + 1)
  write seed i (byte ^^^ next)

/-- The six bytes of a device id, unless one of the passes leaves its buffer. -/
def checkedKey6 (original : List UInt8) : Option (List UInt8) := do
  let length : ℤ := original.length
  let buf ← (List.range (original.length - 1)).foldlM (checkedTurn1 original length) original
  let half := original.length / 2
  let buf ← (List.range half).foldlM (checkedTurn2 length half) buf
  let key6 ← (List.range original.length).foldlM (checkedTurn3 buf length) (List.replicate 6 0)
  (List.range 6).foldlM checkedTurn4 key6

/-- The key that six bytes make, unless one of the passes leaves its buffer. -/
def checkedKeyOf (key6 : List UInt8) : Option (List UInt8) := do
  let seed := key6 ++ [lowByte (crc16Ccitt key6), highByte (crc16Ccitt key6)] ++
    List.replicate 8 0
  let anchor ← read seed 7
  let seed ← (List.range 8).foldlM (checkedTurn5 anchor) seed
  (List.range 16).foldlM checkedTurn6 seed

section

variable {buffer : List UInt8} {index : ℤ} {place size : ℕ}

theorem read_eq (same : index = place) (inside : place < buffer.length) :
    read buffer index = some (buffer.getD place 0) := by
  rw [read, same, if_pos (Int.natCast_nonneg place), Int.toNat_natCast,
    List.getElem?_eq_getElem inside, List.getD_eq_getElem _ _ inside]

theorem write_eq (same : index = place) (inside : place < buffer.length) (value : UInt8) :
    write buffer index value = some (buffer.set place value) := by
  rw [write, same, if_pos ⟨Int.natCast_nonneg place, Int.ofNat_lt.mpr inside⟩, Int.toNat_natCast]

/-- Turns that stay inside make the pass without checks, in a buffer of the same size. -/
theorem foldlM_eq {turn : List UInt8 → ℕ → Option (List UInt8)} (places : List ℕ)
    (place : ℕ → ℕ) (value : List UInt8 → ℕ → UInt8)
    (turns : ∀ buffer : List UInt8, buffer.length = size → ∀ i ∈ places,
      turn buffer i = some (buffer.set (place i) (value buffer i)))
    (length : buffer.length = size) :
    places.foldlM turn buffer =
        some (places.foldl (fun buffer i => buffer.set (place i) (value buffer i)) buffer) ∧
      (places.foldl (fun buffer i => buffer.set (place i) (value buffer i)) buffer).length =
        size := by
  refine ⟨?_, (length_foldl_set places place value).trans length⟩
  induction places generalizing buffer with
  | nil => rfl
  | cons i places induction =>
      rw [List.foldlM_cons, turns buffer length i List.mem_cons_self, List.foldl_cons]
      exact induction (fun other same i member => turns other same i (List.mem_cons_of_mem _ member))
        (by rw [List.length_set, length])

end

section

variable {original buffer : List UInt8} {i : ℕ}

theorem checkedTurn1_eq (length : buffer.length = original.length)
    (member : i ∈ List.range (original.length - 1)) :
    checkedTurn1 original original.length buffer i =
      some (buffer.set i ((original.getD i 0 ^^^ original.getD (i + 1) 0) +
        buffer.getD (original.length - 1 - i) 0)) := by
  have small := List.mem_range.mp member
  rw [checkedTurn1, read_eq rfl (show i < original.length by omega),
    read_eq (show ((i : ℤ) + 1) = ((i + 1 : ℕ) : ℤ) by omega) (by omega),
    read_eq (show (original.length : ℤ) - 1 - i = ((original.length - 1 - i : ℕ) : ℤ) by omega)
      (by omega)]
  exact write_eq rfl (by omega) _

theorem checkedTurn2_eq (length : buffer.length = original.length)
    (member : i ∈ List.range (original.length / 2)) :
    checkedTurn2 original.length (original.length / 2 : ℕ) buffer i =
      some (buffer.set (original.length - 1 - i)
        (buffer.getD i 0 ^^^ buffer.getD (i + original.length / 2 - 1) 0)) := by
  have small := List.mem_range.mp member
  rw [checkedTurn2, read_eq rfl (show i < buffer.length by omega),
    read_eq (show (i : ℤ) + (original.length / 2 : ℕ) - 1 =
      ((i + original.length / 2 - 1 : ℕ) : ℤ) by omega) (by omega)]
  exact write_eq (by omega) (by omega) _

theorem checkedTurn3_eq {key6 : List UInt8} (length : buffer.length = original.length)
    (six : key6.length = 6) (member : i ∈ List.range original.length) :
    checkedTurn3 buffer original.length key6 i =
      some (key6.set (i % 6)
        (key6.getD (i % 6) 0 ^^^ buffer.getD (original.length - 1 - i) 0)) := by
  have small := List.mem_range.mp member
  rw [checkedTurn3, read_eq (show (i : ℤ) % 6 = ((i % 6 : ℕ) : ℤ) by omega) (by omega),
    read_eq (show (original.length : ℤ) - 1 - i = ((original.length - 1 - i : ℕ) : ℤ) by omega)
      (by omega)]
  exact write_eq (by omega) (by omega) _

theorem checkedTurn4_eq {key6 : List UInt8} (six : key6.length = 6) (member : i ∈ List.range 6) :
    checkedTurn4 key6 i =
      some (key6.set i
        (key6.getD i 0 + (key6.getD (5 - i) 0 ^^^ key6.getD ((i + 3) % 6) 0))) := by
  have small := List.mem_range.mp member
  rw [checkedTurn4, read_eq rfl (show i < key6.length by omega),
    read_eq (show (5 : ℤ) - i = ((5 - i : ℕ) : ℤ) by omega) (by omega),
    read_eq (show ((i : ℤ) + 3) % 6 = (((i + 3) % 6 : ℕ) : ℤ) by omega) (by omega)]
  exact write_eq rfl (by omega) _

theorem checkedTurn5_eq {seed : List UInt8} (anchor : UInt8) (sixteen : seed.length = 16)
    (member : i ∈ List.range 8) :
    checkedTurn5 anchor seed i = some (seed.set (15 - i) (seed.getD i 0 ^^^ anchor)) := by
  have small := List.mem_range.mp member
  rw [checkedTurn5, read_eq rfl (show i < seed.length by omega)]
  exact write_eq (by omega) (by omega) _

theorem checkedTurn6_eq {seed : List UInt8} (sixteen : seed.length = 16)
    (member : i ∈ List.range 16) :
    checkedTurn6 seed i =
      some (seed.set i (seed.getD i 0 ^^^ seed.getD (if i = 15 then 0 else i + 1) 0)) := by
  have small := List.mem_range.mp member
  have next : (if i = 15 then (0 : ℤ) else i + 1) = ((if i = 15 then 0 else i + 1 : ℕ) : ℤ) := by
    split <;> rfl
  have inside : (if i = 15 then 0 else i + 1) < seed.length := by
    split <;> omega
  rw [checkedTurn6, read_eq rfl (show i < seed.length by omega), read_eq next inside]
  exact write_eq rfl (by omega) _

end

theorem checkedKey6_eq (original : List UInt8) :
    checkedKey6 original = some (deviceKey6 original) := by
  obtain ⟨pass1, length1⟩ := foldlM_eq _ (fun i => i) _
    (fun _ length i member => checkedTurn1_eq length member) (rfl : original.length = _)
  obtain ⟨pass2, length2⟩ := foldlM_eq _ (fun i => original.length - 1 - i) _
    (fun _ length i member => checkedTurn2_eq length member) length1
  obtain ⟨pass3, length3⟩ := foldlM_eq _ (fun i => i % 6) _
    (fun _ six i member => checkedTurn3_eq length2 six member)
    (List.length_replicate : (List.replicate 6 (0 : UInt8)).length = 6)
  obtain ⟨pass4, -⟩ := foldlM_eq _ (fun i => i) _
    (fun _ six i member => checkedTurn4_eq six member) length3
  rw [checkedKey6]
  simp only [pass1, pass2, Option.bind_eq_bind, Option.bind_some]
  rw [pass3, Option.bind_some]
  exact pass4

theorem checkedKeyOf_eq {key6 : List UInt8} (six : key6.length = 6) :
    checkedKeyOf key6 = some (keyOf key6) := by
  have seeded : (key6 ++ [lowByte (crc16Ccitt key6), highByte (crc16Ccitt key6)] ++
      List.replicate 8 0).length = 16 := by
    rw [List.length_append, List.length_append, six]
    rfl
  have anchored := read_eq (rfl : (7 : ℤ) = ((7 : ℕ) : ℤ)) (show 7 < _ by rw [seeded]; decide)
  obtain ⟨pass5, length5⟩ := foldlM_eq _ (fun i => 15 - i) _
    (fun _ sixteen i member => checkedTurn5_eq
      ((key6 ++ [lowByte (crc16Ccitt key6), highByte (crc16Ccitt key6)] ++
        List.replicate 8 0).getD 7 0) sixteen member) seeded
  obtain ⟨pass6, -⟩ := foldlM_eq _ (fun i => i) _
    (fun _ sixteen i member => checkedTurn6_eq sixteen member) length5
  rw [checkedKeyOf, anchored, Option.bind_eq_bind, Option.bind_some, pass5]
  exact pass6

/-! ## Device keys -/

/-- The device keys there are. -/
def deviceKeys : Set (List UInt8) := Set.range deriveDeviceKey

/-- A device key is one of the keys of six bytes. -/
theorem deviceKeys_subset : deviceKeys ⊆
    Set.range fun key6 : Fin 6 → Fin 256 => keyOf (List.ofFn fun i => .ofNat (key6 i)) := by
  rintro _ ⟨deviceId, rfl⟩
  rw [deriveDeviceKey_eq]
  have six := length_deviceKey6 (asciiBuffer deviceId)
  generalize deviceKey6 (asciiBuffer deviceId) = key6 at six
  refine ⟨fun i => ⟨(key6.getD i 0).toNat, UInt8.toNat_lt _⟩, ?_⟩
  obtain ⟨a, b, c, d, e, f, rfl⟩ := exists_six six
  simp [List.ofFn_succ]

/-- On ASCII device ids the two implementations make the same key, without leaving their buffers; a
key has its shape, and there are at most 2^48 of them. -/
theorem device_key_shape :
    (∀ deviceId, Ascii deviceId →
      Reference.deriveDeviceKey deviceId = .ok (deriveDeviceKey deviceId) ∧
        (checkedKey6 (asciiBuffer deviceId)).bind checkedKeyOf = some (deriveDeviceKey deviceId) ∧
        Shaped (deriveDeviceKey deviceId)) ∧
      deviceKeys.Finite ∧ deviceKeys.ncard ≤ 2 ^ 48 := by
  have finite := Set.finite_range
    fun key6 : Fin 6 → Fin 256 => keyOf (List.ofFn fun i => .ofNat (key6 i))
  refine ⟨fun deviceId ascii => ⟨?_, ?_, ?_⟩, finite.subset deviceKeys_subset, ?_⟩
  · exact deriveDeviceKey_eq_ok_iff.mpr ⟨ascii, rfl⟩
  · rw [checkedKey6_eq, Option.bind_some, checkedKeyOf_eq (length_deviceKey6 _), deriveDeviceKey_eq]
  · rw [deriveDeviceKey_eq]
    exact shaped_keyOf (length_deviceKey6 _)
  · refine (Set.ncard_le_ncard deviceKeys_subset finite).trans ?_
    rw [← Set.image_univ]
    refine (Set.ncard_image_le Set.finite_univ).trans ?_
    rw [Set.ncard_univ, Nat.card_eq_fintype_card, Fintype.card_pi_const, Fintype.card_fin]
    norm_num

theorem device_key_shape_hub :
    Reference.deriveDeviceKey "lumi.54ef" = .ok (deriveDeviceKey "lumi.54ef") ∧
      (checkedKey6 (asciiBuffer "lumi.54ef")).bind checkedKeyOf =
        some (deriveDeviceKey "lumi.54ef") ∧
      Shaped (deriveDeviceKey "lumi.54ef") := by
  have ascii : Ascii "lumi.54ef" := by simp [Ascii]
  exact device_key_shape.1 "lumi.54ef" ascii

end Comparison
end AqaraLanLink
