import Mathlib.Algebra.Group.Nat.Defs

/-!
# Numbers as bytes

A number of a given width, least significant byte first.  Most significant byte first is the same
backwards.
-/

namespace Library
namespace Endian

/-- The bytes of a number, least significant first. -/
def littleBytes : ℕ → ℕ → List UInt8
  | 0, _ => []
  | width + 1, value => .ofNat (value % 256) :: littleBytes width (value / 256)

/-- The number of some bytes, least significant first. -/
def ofLittle : List UInt8 → ℕ
  | [] => 0
  | byte :: bytes => byte.toNat + 256 * ofLittle bytes

/-- The bytes of a number, most significant first. -/
def bigBytes (width value : ℕ) : List UInt8 := (littleBytes width value).reverse

/-- The number of some bytes, most significant first. -/
def ofBig (bytes : List UInt8) : ℕ :=
  bytes.foldl (fun value byte => value * 256 + byte.toNat) 0

@[simp] theorem length_littleBytes (width value : ℕ) : (littleBytes width value).length = width := by
  induction width generalizing value with
  | zero => rfl
  | succ width induction => rw [littleBytes, List.length_cons, induction]

@[simp] theorem length_bigBytes (width value : ℕ) : (bigBytes width value).length = width := by
  rw [bigBytes, List.length_reverse, length_littleBytes]

/-- A number that fits is read again. -/
theorem ofLittle_littleBytes {width value : ℕ} (fits : value < 256 ^ width) :
    ofLittle (littleBytes width value) = value := by
  induction width generalizing value with
  | zero =>
      rw [Nat.pow_zero] at fits
      change 0 = value
      omega
  | succ width induction =>
      have byte : (UInt8.ofNat (value % 256)).toNat = value % 256 :=
        UInt8.toNat_ofNat_of_lt' (show value % 256 < 256 by omega)
      have less : value / 256 < 256 ^ width := by
        rw [Nat.pow_succ] at fits
        exact Nat.div_lt_of_lt_mul (Nat.mul_comm _ 256 ▸ fits)
      rw [littleBytes, ofLittle, byte, induction less]
      omega

theorem ofBig_reverse (bytes : List UInt8) : ofBig bytes.reverse = ofLittle bytes := by
  rw [ofBig, List.foldl_reverse]
  induction bytes with
  | nil => rfl
  | cons byte bytes induction =>
      rw [List.foldr_cons, induction, ofLittle]
      omega

theorem ofBig_bigBytes {width value : ℕ} (fits : value < 256 ^ width) :
    ofBig (bigBytes width value) = value := by
  rw [bigBytes, ofBig_reverse, ofLittle_littleBytes fits]

/-- Bytes that are read are written again. -/
theorem littleBytes_ofLittle (bytes : List UInt8) :
    littleBytes bytes.length (ofLittle bytes) = bytes := by
  induction bytes with
  | nil => rfl
  | cons byte bytes induction =>
      have fits := byte.toNat_lt
      have low : (byte.toNat + 256 * ofLittle bytes) % 256 = byte.toNat := by omega
      have high : (byte.toNat + 256 * ofLittle bytes) / 256 = ofLittle bytes := by omega
      rw [List.length_cons, ofLittle, littleBytes, low, high, induction, UInt8.ofNat_toNat]

theorem bigBytes_ofBig (bytes : List UInt8) : bigBytes bytes.length (ofBig bytes) = bytes := by
  have written := littleBytes_ofLittle bytes.reverse
  rw [← ofBig_reverse, List.reverse_reverse, List.length_reverse] at written
  rw [bigBytes, written, List.reverse_reverse]

theorem ofLittle_lt (bytes : List UInt8) : ofLittle bytes < 256 ^ bytes.length := by
  induction bytes with
  | nil => exact Nat.one_pos
  | cons byte bytes induction =>
      have fits := byte.toNat_lt
      rw [ofLittle, List.length_cons, Nat.pow_succ]
      omega

theorem ofBig_lt (bytes : List UInt8) : ofBig bytes < 256 ^ bytes.length := by
  rw [← List.reverse_reverse bytes, ofBig_reverse, List.length_reverse]
  exact ofLittle_lt _

end Endian
end Library
