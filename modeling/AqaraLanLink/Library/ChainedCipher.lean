import Mathlib.Data.List.Forall2

/-!
# Ciphers that chain on the ciphertext

A stream cipher whose key stream at every place is taken from the ciphertext one place before, and
which puts text and key stream together by an operation that undoes itself.
-/

namespace Library

universe u

/-- A cipher: how text and key stream are put together, and the key stream after a ciphertext. -/
structure ChainedCipher (α : Type u) where
  combine : α → α → α
  stream : α → α
  undo : ∀ stream value, combine stream (combine stream value) = value

namespace ChainedCipher

variable {α : Type u} (cipher : ChainedCipher α)

/-- The ciphertext of a text, after a ciphertext. -/
def encipher : α → List α → List α
  | _, [] => []
  | before, value :: text =>
      cipher.combine (cipher.stream before) value ::
        encipher (cipher.combine (cipher.stream before) value) text

/-- The text of a ciphertext. -/
def decipher : α → List α → List α
  | _, [] => []
  | before, value :: text =>
      cipher.combine (cipher.stream before) value :: decipher value text

variable {cipher} {before : α} {text : List α}

theorem decipher_encipher (before : α) (text : List α) :
    cipher.decipher before (cipher.encipher before text) = text := by
  induction text generalizing before with
  | nil => rfl
  | cons value text induction => rw [encipher, decipher, cipher.undo, induction]

theorem encipher_decipher (before : α) (text : List α) :
    cipher.encipher before (cipher.decipher before text) = text := by
  induction text generalizing before with
  | nil => rfl
  | cons value text induction => rw [decipher, encipher, cipher.undo, induction]

/-- The text at a place comes from the ciphertext there and one place before. -/
theorem getElem?_decipher (before : α) (text : List α) (place : ℕ) :
    (cipher.decipher before text)[place]? =
      (text[place]?).map fun value =>
        cipher.combine (cipher.stream ((before :: text).getD place before)) value := by
  induction text generalizing before place with
  | nil => rfl
  | cons value text induction =>
      cases place with
      | zero => rfl
      | succ place =>
          rw [decipher, List.getElem?_cons_succ, induction, List.getElem?_cons_succ]
          cases found : text[place]? with
          | none => rfl
          | some next =>
              have short : place < (value :: text).length := by
                have inside := (List.getElem?_eq_some_iff.mp found).1
                rw [List.length_cons]
                omega
              simp [List.getD, List.getElem?_eq_getElem short]

/-- A change in one place of a ciphertext changes the text there and one place on. -/
theorem decipher_local {text' : List α} {changed : ℕ}
    (same : ∀ place, place ≠ changed → text[place]? = text'[place]?) {place : ℕ}
    (apart : place ≠ changed) (apart' : place ≠ changed + 1) :
    (cipher.decipher before text)[place]? = (cipher.decipher before text')[place]? := by
  rw [getElem?_decipher, getElem?_decipher, same place apart]
  have stream : (before :: text).getD place before = (before :: text').getD place before := by
    cases place with
    | zero => rfl
    | succ place =>
        simp only [List.getD, List.getElem?_cons_succ]
        rw [same place (by omega)]
  rw [stream]

end ChainedCipher
end Library
