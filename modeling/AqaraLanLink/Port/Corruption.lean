import AqaraLanLink.Library.CyclicRedundancy
import AqaraLanLink.Port.Reassembly

/-!
# Corrupted frames

An error in the ciphertext and the CRC of a frame makes `parseFrame` throw exactly when the
polynomial of the CRC does not divide it, so every burst of 16 bits and every odd number of flipped
bits does.
-/

namespace AqaraLanLink
namespace Port

open Polynomial Library BinaryPolynomial CyclicRedundancy

/-! ## The CRC of the frames as a register -/

theorem crc16Bits_eq (count crc : ℕ) : crc16Bits count crc = (turn 16 0x1021)^[count] crc := by
  induction count generalizing crc with
  | zero => rfl
  | succ count induction =>
      have top : crc &&& 0x8000 ≠ 0 ↔ crc.testBit 15 = true := by
        have masked : crc &&& 2 ^ 15 = (crc.testBit 15).toNat * 2 ^ 15 := Nat.and_two_pow crc 15
        norm_num at masked
        rw [masked]
        cases crc.testBit 15
        · simp
        · simp
      have masked (value : ℕ) : value &&& 0xFFFF = value % 2 ^ 16 :=
        Nat.and_two_pow_sub_one_eq_mod value 16
      rw [crc16Bits, induction, Function.iterate_succ_apply, turn]
      simp only [top, masked]
      split
      · rfl
      · rfl

theorem crc16Ccitt_eq_foldl (data : List UInt8) :
    crc16Ccitt data = data.foldl (feed 16 0x1021) 0xFFFF ^^^ 0xFFFF := by
  have turns : (fun (crc : ℕ) (byte : UInt8) => crc16Bits 8 (crc ^^^ (byte.toNat <<< 8))) =
      feed 16 0x1021 := by
    funext crc byte
    exact crc16Bits_eq 8 _
  rw [crc16Ccitt, turns]

/-- x^16 + x^12 + x^5 + 1. -/
noncomputable abbrev crcGenerator : (ZMod 2)[X] := generator 16 0x1021

theorem coeff_zero_crcGenerator : crcGenerator.coeff 0 ≠ 0 := by
  rw [crcGenerator, generator, coeff_add, coeff_toPoly, coeff_X_pow]
  decide

theorem eval_one_crcGenerator : crcGenerator.eval 1 = 0 := by
  rw [crcGenerator, generator, ← poly_bigBits (show 0x1021 < 2 ^ 16 by norm_num), eval_add,
    eval_pow, eval_X, one_pow, eval_one_poly]
  decide

/-! ## Flipped bits -/

/-- The frame with the bits of a pattern flipped, from the ciphertext to the end. -/
def corrupt (bytes pattern : List UInt8) : List UInt8 :=
  bytes.take frameHeaderLen ++ List.zipWith (· ^^^ ·) (bytes.drop frameHeaderLen) pattern

/-- The set bits lie within 16 consecutive ones. -/
def Burst (pattern : List UInt8) : Prop :=
  ∃ before after burst, burst.length ≤ 16 ∧
    bits pattern = List.replicate before false ++ burst ++ List.replicate after false

theorem word_eq_xor (high : ℕ) {low : ℕ} (small : low < 256) :
    high * 256 + low = high <<< 8 ^^^ low := by
  apply Nat.eq_of_testBit_eq
  intro i
  have sum := Nat.testBit_two_pow_mul_add high (i := 8) small i
  rw [show 2 ^ 8 * high = high * 256 by ring] at sum
  rw [sum, Nat.testBit_xor, Nat.testBit_shiftLeft]
  by_cases inside : i < 8
  · simp [inside, Nat.not_le.mpr inside]
  · have zero : low.testBit i = false :=
      Nat.testBit_eq_false_of_lt (small.trans_le
        (show 2 ^ 8 ≤ 2 ^ i from Nat.pow_le_pow_right (by norm_num) (by omega)))
    simp [inside, zero, Nat.le_of_not_lt inside]

/-- Flipping bits in the bytes of a word flips them in the word. -/
theorem word_xor {value : ℕ} (small : value < 65536) (high low : UInt8) :
    (UInt8.ofNat (value / 256) ^^^ high).toNat * 256 + (UInt8.ofNat (value % 256) ^^^ low).toNat =
      value ^^^ (high.toNat <<< 8 ^^^ low.toNat) := by
  have top : value / 256 % 256 = value / 256 := by omega
  have split : (value / 256) <<< 8 ^^^ value % 256 = value := by
    rw [← word_eq_xor _ (Nat.mod_lt _ (by norm_num))]
    omega
  calc
    _ = (value / 256 ^^^ high.toNat) <<< 8 ^^^ (value % 256 ^^^ low.toNat) := by
      rw [word_eq_xor _ (UInt8.toNat_lt _), UInt8.toNat_xor, UInt8.toNat_xor, UInt8.toNat_ofNat',
        UInt8.toNat_ofNat', Nat.mod_mod, top]
    _ = ((value / 256) <<< 8 ^^^ value % 256) ^^^ (high.toNat <<< 8 ^^^ low.toNat) := by
      rw [Nat.shiftLeft_xor_distrib, Nat.xor_assoc, Nat.xor_assoc, Nat.xor_left_comm (high.toNat <<< 8)]
    _ = _ := by rw [split]

/-- The CRC is wrong after an error exactly when the generator does not divide the error. -/
theorem crc16Ccitt_xor_iff {ciphertext pattern : List UInt8}
    (length : ciphertext.length = pattern.length) (high low : UInt8) :
    crc16Ccitt (List.zipWith (· ^^^ ·) ciphertext pattern) =
        crc16Ccitt ciphertext ^^^ (high.toNat <<< 8 ^^^ low.toNat) ↔
      crcGenerator ∣ poly (bits (pattern ++ [high, low])) := by
  have high_lt : high.toNat <<< 8 < 2 ^ 16 := by
    have octet := high.toNat_lt
    rw [Nat.shiftLeft_eq]
    omega
  have low_lt : low.toNat < 2 ^ 16 := low.toNat_lt.trans (by norm_num)
  have check : poly (bits [high, low]) = toPoly (high.toNat <<< 8 ^^^ low.toNat) := by
    rw [toPoly_xor, toPoly_shiftLeft, ← poly_bigBits high.toNat_lt, ← poly_bigBits low.toNat_lt, bits,
      List.flatMap_cons, List.flatMap_cons, List.flatMap_nil, List.append_nil, poly_append,
      length_bigBits]
  rw [bits_append, poly_append, check, length_bits, crc16Ccitt_eq_foldl, crc16Ccitt_eq_foldl,
    Nat.xor_right_comm, Nat.xor_left_inj]
  exact foldl_feed_xor_iff (by norm_num) (by norm_num) (by norm_num) length
    (Nat.xor_lt_two_pow high_lt low_lt)

/-- A corrupted frame is refused exactly when the generator does not divide the error. -/
theorem parseFrame_corrupt {frame : Frame} (sendable : frame.Sendable) {pattern : List UInt8}
    (length : pattern.length = frame.ciphertext.length + 2)
    (unseen : ¬ crcGenerator ∣ poly (bits pattern)) (rest : List UInt8) :
    ∃ error, parseFrame (corrupt frame.bytes pattern ++ rest) = .error error := by
  obtain ⟨type, ciphertext⟩ := frame
  have split := List.take_append_drop ciphertext.length pattern
  generalize body : pattern.take ciphertext.length = harm at split
  have harm_length : ciphertext.length = harm.length := by
    rw [← body, List.length_take_of_le (by rw [length]; exact Nat.le_add_right _ _)]
  obtain ⟨high, low, tail⟩ : ∃ high low, pattern.drop ciphertext.length = [high, low] := by
    apply List.length_eq_two.mp
    rw [List.length_drop, length, Nat.add_sub_cancel_left]
  rw [tail] at split
  have whole := Frame.bytes_append ⟨type, ciphertext⟩ []
  rw [List.append_nil] at whole
  have harmed : corrupt (Frame.bytes ⟨type, ciphertext⟩) pattern ++ rest =
      frameHeader type (List.zipWith (· ^^^ ·) ciphertext harm).length ++
        (List.zipWith (· ^^^ ·) ciphertext harm ++
          ([.ofNat (crc16Ccitt ciphertext / 256) ^^^ high,
            .ofNat (crc16Ccitt ciphertext % 256) ^^^ low] ++ rest)) := by
    have same : (List.zipWith (· ^^^ ·) ciphertext harm).length = ciphertext.length := by
      rw [List.length_zipWith, ← harm_length, Nat.min_self]
    rw [whole, corrupt, same, ← split, show frameHeaderLen = (frameHeader type ciphertext.length).length
      from rfl, List.take_left, List.drop_left, List.zipWith_append harm_length, List.append_assoc,
      List.append_assoc]
    rfl
  have sendable' : Frame.Sendable ⟨type, List.zipWith (· ^^^ ·) ciphertext harm⟩ := by
    refine ⟨sendable.type, ?_⟩
    rw [List.length_zipWith, ← harm_length, Nat.min_self]
    exact sendable.fits
  rw [harmed, parseFrame_whole sendable', word_xor (crc16Ccitt_lt ciphertext), if_pos]
  · exact ⟨_, rfl⟩
  · intro equal
    refine unseen ?_
    rw [← split]
    exact (crc16Ccitt_xor_iff harm_length high low).mp equal.symm

/-- Every burst of at most 16 bits and every odd number of flipped bits, anywhere in the ciphertext
and the CRC, is detected. -/
theorem corruption_detected {type : ℕ} {ciphertext pattern : List UInt8} (small : type < 65536)
    (fits : ciphertext.length ≤ maxFrameCtLen) (length : pattern.length = ciphertext.length + 2)
    (harm : true ∈ bits pattern ∧ Burst pattern ∨ (bits pattern).count true % 2 = 1)
    (rest : List UInt8) :
    ∃ bytes error, encodeFrame type ciphertext = some bytes ∧
      parseFrame (corrupt bytes pattern ++ rest) = .error error := by
  have sendable : Frame.Sendable ⟨type, ciphertext⟩ := ⟨small, fits⟩
  have unseen : ¬ crcGenerator ∣ poly (bits pattern) := by
    rcases harm with ⟨set, before, after, burst, short, same⟩ | odd
    · rw [same] at set ⊢
      refine not_dvd_of_burst coeff_zero_crcGenerator ?_ (by simpa using set)
      rwa [natDegree_generator (by norm_num)]
    · exact not_dvd_of_odd eval_one_crcGenerator odd
  obtain ⟨error, refused⟩ := parseFrame_corrupt sendable length unseen rest
  exact ⟨_, error, encodeFrame_eq sendable, refused⟩

/-- Two neighbouring bits, the last of the ciphertext and the first of the CRC, are flipped. -/
theorem corruption_detected_border : ∃ bytes error,
    encodeFrame msgTypeEcdh [1, 2, 3] = some bytes ∧
      parseFrame (corrupt bytes [0, 0, 1, 0x80, 0] ++ []) = .error error :=
  corruption_detected (by decide) (by decide) rfl
    (Or.inl ⟨by decide, 23, 15, [true, true], by decide, by decide⟩) []

end Port
end AqaraLanLink
