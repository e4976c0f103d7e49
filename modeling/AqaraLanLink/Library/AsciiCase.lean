/-!
# The letters of ASCII

Capitals and small letters by their code points, and what changing their case does to these.
-/

namespace Library
namespace AsciiCase

variable {char : Char}

theorem isUpper_iff : char.isUpper ↔ 65 ≤ char.toNat ∧ char.toNat ≤ 90 := by
  change decide (char.val ≥ 'A'.val ∧ char.val ≤ 'Z'.val) = true ↔ _
  rw [decide_eq_true_iff]
  exact and_congr UInt32.le_iff_toNat_le UInt32.le_iff_toNat_le

theorem isLower_iff : char.isLower ↔ 97 ≤ char.toNat ∧ char.toNat ≤ 122 := by
  change (decide (char.val ≥ 'a'.val) && decide (char.val ≤ 'z'.val)) = true ↔ _
  rw [Bool.and_eq_true, decide_eq_true_iff, decide_eq_true_iff]
  exact and_congr UInt32.le_iff_toNat_le UInt32.le_iff_toNat_le

theorem isAlpha_iff : char.isAlpha ↔ char.isUpper ∨ char.isLower := Bool.or_eq_true _ _ |>.to_iff

theorem isAlphanum_iff : char.isAlphanum ↔ char.isAlpha ∨ char.isDigit :=
  Bool.or_eq_true _ _ |>.to_iff

theorem isLower_eq_false (upper : char.isUpper) : char.isLower = false := by
  refine Bool.eq_false_iff.mpr fun lower => ?_
  have capital := isUpper_iff.mp upper
  have small := isLower_iff.mp lower
  omega

theorem isUpper_eq_false (lower : char.isLower) : char.isUpper = false :=
  Bool.eq_false_iff.mpr fun upper => by simp [isLower_eq_false upper] at lower

theorem toLower_eq_self (small : char.isUpper = false) : char.toLower = char :=
  dif_neg (of_decide_eq_false small)

theorem map_toLower {text : List Char} (small : ∀ char ∈ text, char.isUpper = false) :
    text.map Char.toLower = text := by
  have stays : ∀ char ∈ text, char.toLower = id char := fun char member =>
    toLower_eq_self (small char member)
  rw [List.map_congr_left stays, List.map_id]

theorem toUpper_eq_self (capital : char.isLower = false) : char.toUpper = char :=
  dif_neg fun lower => by simp [isLower_iff.mpr ⟨lower.1, lower.2⟩] at capital

theorem toNat_toLower (upper : char.isUpper) : char.toLower.toNat = char.toNat + 32 := by
  have bounds := isUpper_iff.mp upper
  have lowered : char.toLower.val = char.val + ('a'.val - 'A'.val) :=
    congrArg Char.val (dif_pos (of_decide_eq_true upper))
  have between : ('a'.val - 'A'.val).toNat = 32 := by decide
  rw [← Char.toNat_val, lowered, UInt32.toNat_add, between, Char.toNat_val]
  omega

theorem toNat_toUpper (lower : char.isLower) : char.toUpper.toNat = char.toNat - 32 := by
  have bounds := isLower_iff.mp lower
  obtain ⟨above, below⟩ := Bool.and_eq_true_iff.mp lower
  have raised : char.toUpper.val = char.val + ('A'.val - 'a'.val) := by
    delta Char.toUpper
    rw [dif_pos ⟨of_decide_eq_true above, of_decide_eq_true below⟩]
  have between : ('A'.val - 'a'.val).toNat = 2 ^ 32 - 32 := by decide
  rw [← Char.toNat_val, raised, UInt32.toNat_add, between, Char.toNat_val]
  omega

theorem isLower_toLower (upper : char.isUpper) : char.toLower.isLower := by
  have bounds := isUpper_iff.mp upper
  have lowered := toNat_toLower upper
  exact isLower_iff.mpr (by omega)

theorem isUpper_toUpper (lower : char.isLower) : char.toUpper.isUpper := by
  have bounds := isLower_iff.mp lower
  have raised := toNat_toUpper lower
  exact isUpper_iff.mpr (by omega)

end AsciiCase
end Library
