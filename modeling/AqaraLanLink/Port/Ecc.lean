import AqaraLanLink.Library.BinaryPolynomial
import AqaraLanLink.Library.Outcome

/-!
# The port's elliptic-curve arithmetic

`src/protocol/ecc.js`: the binary field GF(2^163), the curve the LANLink handshake uses, the
little-endian key codecs and the three calls of the handshake.  A `BigInt` is a natural number, a
`Buffer` a list of bytes.  The only loop that is not bounded by its input is the one of `gfInv`; it
runs on fuel, and every function above it passes the fuel on.
-/

namespace AqaraLanLink
namespace Port
namespace Ecc

open Library

/-- A Node `Buffer`. -/
abbrev Buffer := List UInt8

/-- x^163 + x^7 + x^6 + x^3 + 1 -/
def fieldPoly : ℕ := (1 <<< 163) ||| (1 <<< 7) ||| (1 <<< 6) ||| (1 <<< 3) ||| 1

def curveB : ℕ := 0x020A601907B8C953CA1481EB10512F78744A3205FD
def genX : ℕ := 0x03F0EBA16286A2D57EA0991168D4994637E8343E36
def genY : ℕ := 0x00D51FBC6C71A0094FA2CDD545B11C5C0C797324F1
def curveOrder : ℕ := 0x040000000000000000000292FE77E70C12A4234C33

/-- Bytes of a private key, and of each coordinate of a public key. -/
def keyBytes : ℕ := 24
def pubkeyBytes : ℕ := 48

/-- A point as the source holds it; `infinity` is `{ x: null, y: null }`. -/
inductive Point where
  /-- The identity of the group. -/
  | infinity
  /-- A pair of coordinates, which need not be reduced. -/
  | affine (x y : ℕ)
  deriving DecidableEq, Repr

/-- How many bits a field element takes. -/
def bitLength (value : ℕ) : ℕ :=
  if value = 0 then 0 else value.log2 + 1

/-! ## Little-endian codecs -/

/-- The turns of the loop of `fieldToBytes` that are left. -/
def fieldToBytesLoop : ℕ → ℕ → Buffer
  | 0, _ => []
  | turns + 1, rest => UInt8.ofNat (rest &&& 0xFF) :: fieldToBytesLoop turns (rest >>> 8)

/-- A field element as 24 little-endian bytes. -/
def fieldToBytes (value : ℕ) : Buffer :=
  fieldToBytesLoop keyBytes value

/-- The loop of `bytesToField`, which reads the bytes from the last to the first. -/
def littleEndian (data : Buffer) : ℕ :=
  data.foldr (fun byte value => (value <<< 8) ||| byte.toNat) 0

/-- The field element of 24 little-endian bytes. -/
def bytesToField (data : Buffer) : Outcome String ℕ :=
  if data.length ≠ keyBytes then
    .throws s!"Expected {keyBytes} bytes, got {data.length}"
  else
    .returns (littleEndian data)

def pubkeyToBytes (x y : ℕ) : Buffer :=
  fieldToBytes x ++ fieldToBytes y

def bytesToPubkey (data : Buffer) : Outcome String Point :=
  if data.length ≠ pubkeyBytes then
    .throws s!"Expected {pubkeyBytes} bytes, got {data.length}"
  else do
    let x ← bytesToField (data.take keyBytes)
    let y ← bytesToField (data.drop keyBytes)
    pure (.affine x y)

/-! ## The field -/

/-- The loop of `gfMul`. -/
def gfMulLoop (result left right : ℕ) : ℕ :=
  if right = 0 then result
  else gfMulLoop (if right &&& 1 ≠ 0 then result ^^^ left else result) (left <<< 1) (right >>> 1)
termination_by right
decreasing_by
  rw [Nat.shiftRight_one]
  omega

/-- The unreduced carry-less product. -/
def gfMul (a b : ℕ) : ℕ :=
  gfMulLoop 0 a b

theorem bitLength_eq_size (value : ℕ) : bitLength value = value.size := by
  rw [bitLength]
  split
  · rename_i zero
    rw [zero, Nat.size_zero]
  · rename_i nonzero
    apply Nat.le_antisymm
    · exact Nat.lt_size.mpr (Nat.log2_self_le nonzero)
    · exact Nat.size_le.mpr Nat.lt_log2_self

theorem bitLength_le_iff {value width : ℕ} : bitLength value ≤ width ↔ value < 2 ^ width := by
  rw [bitLength_eq_size, Nat.size_le]

@[simp] theorem bitLength_eq_zero_iff {value : ℕ} : bitLength value = 0 ↔ value = 0 := by
  rw [bitLength_eq_size, Nat.size_eq_zero]

theorem lt_bitLength_iff {value width : ℕ} : width < bitLength value ↔ 2 ^ width ≤ value := by
  rw [bitLength_eq_size, Nat.lt_size]

/-- The divisor moved under the top bit cancels it. -/
theorem bitLength_xor_shiftLeft_lt {value divisor : ℕ} (nonzero : divisor ≠ 0)
    (long : bitLength divisor ≤ bitLength value) :
    bitLength (value ^^^ divisor <<< (bitLength value - bitLength divisor)) < bitLength value := by
  simp only [bitLength_eq_size] at long ⊢
  exact BinaryPolynomial.size_xor_shiftLeft_lt nonzero long

theorem fieldPoly_ne_zero : fieldPoly ≠ 0 := by decide

@[simp] theorem bitLength_fieldPoly : bitLength fieldPoly = 164 := by decide +kernel

/-- A polynomial reduced modulo the field polynomial. -/
def gfMod (value : ℕ) : ℕ :=
  if bitLength fieldPoly ≤ bitLength value then
    gfMod (value ^^^ fieldPoly <<< (bitLength value - bitLength fieldPoly))
  else value
termination_by bitLength value
decreasing_by
  exact bitLength_xor_shiftLeft_lt fieldPoly_ne_zero ‹_›

def gfMulMod (a b : ℕ) : ℕ :=
  gfMod (gfMul a b)

/-- The loop of `gfSqr`. -/
def gfSqrLoop (result rest i : ℕ) : ℕ :=
  if rest = 0 then result
  else gfSqrLoop (if rest &&& 1 ≠ 0 then result ||| 1 <<< (2 * i) else result) (rest >>> 1) (i + 1)
termination_by rest
decreasing_by
  rw [Nat.shiftRight_one]
  omega

/-- The square: the bits spread apart, then reduced. -/
def gfSqr (value : ℕ) : ℕ :=
  gfMod (gfSqrLoop 0 value 0)

/-- The loop of `gfInv`. -/
def gfInvLoop : ℕ → ℕ → ℕ → ℕ → ℕ → Outcome String ℕ
  | 0, _, _, _, _ => .running
  | fuel + 1, u, v, g1, g2 =>
      if u = 1 then .returns (gfMod g1)
      else if bitLength u < bitLength v then
        -- j < 0: the two sides change places first
        gfInvLoop fuel (v ^^^ u <<< (bitLength v - bitLength u)) u
          (g2 ^^^ g1 <<< (bitLength v - bitLength u)) g1
      else
        gfInvLoop fuel (u ^^^ v <<< (bitLength u - bitLength v)) v
          (g1 ^^^ g2 <<< (bitLength u - bitLength v)) g2

/-- The inverse, by the extended Euclidean algorithm over GF(2)[x]. -/
def gfInv (fuel value : ℕ) : Outcome String ℕ :=
  if value = 0 then .throws "Cannot invert zero in GF(2^163)"
  else gfInvLoop fuel value fieldPoly 1 0

/-! ## The curve -/

/-- Whether a point satisfies y^2 + xy = x^3 + a*x^2 + b. -/
def isOnCurve (point : Point) (a : ℕ) : Bool :=
  match point with
  | .infinity => true
  | .affine x y =>
      let left := gfSqr y ^^^ gfMulMod x y
      let xSquared := gfSqr x
      let right := gfMulMod xSquared x ^^^ gfMulMod a xSquared ^^^ curveB
      left == right

/-- The candidates for a, tried in the source's order on the generator. -/
def settleCurveA : Outcome String ℕ :=
  match [1, 0].find? fun candidate => isOnCurve (.affine genX genY) candidate with
  | some candidate => .returns candidate
  | none => .throws "The captured generator lies on neither candidate curve"

/-- The a coefficient; the module does not load when `settleCurveA` throws. -/
def curveA : ℕ :=
  match settleCurveA with
  | .returns candidate => candidate
  | _ => 0

def generator : Point := .affine genX genY

def pointDouble (fuel : ℕ) : Point → Outcome String Point
  | .infinity => pure .infinity
  | .affine x y =>
      if x = 0 then pure .infinity
      else do
        let inverse ← gfInv fuel x
        let lambda := x ^^^ gfMulMod y inverse
        let x' := gfSqr lambda ^^^ lambda ^^^ curveA
        let y' := gfSqr x ^^^ gfMulMod lambda x' ^^^ x'
        pure (.affine x' y')

def pointAdd (fuel : ℕ) (p q : Point) : Outcome String Point :=
  match p, q with
  | .infinity, q => pure q
  | p, .infinity => pure p
  | .affine x₁ y₁, .affine x₂ y₂ =>
      if x₁ = x₂ then
        -- in characteristic two the negative of (x, y) is (x, x + y)
        if y₁ = y₂ then pointDouble fuel (.affine x₁ y₁) else pure .infinity
      else do
        let dx := x₁ ^^^ x₂
        let inverse ← gfInv fuel dx
        let lambda := gfMulMod (y₁ ^^^ y₂) inverse
        let x' := gfSqr lambda ^^^ lambda ^^^ dx ^^^ curveA
        let y' := gfMulMod lambda (x₁ ^^^ x') ^^^ x' ^^^ y₁
        pure (.affine x' y')

/-- The loop of `multiply`, from bit `i - 1` of the scalar down. -/
def multiplyLoop (fuel k : ℕ) (point : Point) : ℕ → Point → Outcome String Point
  | 0, result => pure result
  | i + 1, result => do
      let doubled ← pointDouble fuel result
      let next ← if (k >>> i) &&& 1 ≠ 0 then pointAdd fuel doubled point else pure doubled
      multiplyLoop fuel k point i next

/-- Double-and-add from the top bit down. -/
def multiply (fuel k : ℕ) (point : Point) : Outcome String Point :=
  multiplyLoop fuel k point (bitLength k) .infinity

/-- The multiple by the scalar taken modulo the group order. -/
def scalarMultiply (fuel k : ℕ) (point : Point) : Outcome String Point :=
  let scalar := (k % curveOrder + curveOrder) % curveOrder
  if scalar = 0 then pure .infinity
  else
    match point with
    | .infinity => pure .infinity
    | .affine x y => multiply fuel scalar (.affine x y)

/-! ## What the handshake asks for -/

def publicKeyFromPrivate (privBytes : Buffer) (fuel : ℕ) : Outcome String Buffer := do
  let scalar ← bytesToField privBytes
  match ← scalarMultiply fuel scalar generator with
  | .infinity => .throws "That private key produces the point at infinity"
  | .affine x y => pure (pubkeyToBytes x y)

/-- Whether the multiple by the group order is the point at infinity. -/
def isInPrimeSubgroup (fuel : ℕ) (point : Point) : Outcome String Bool := do
  match ← multiply fuel curveOrder point with
  | .infinity => pure true
  | .affine _ _ => pure false

/-- The x coordinate of our key times theirs, after the checks of the peer's point. -/
def sharedSecret (privBytes peerPubBytes : Buffer) (fuel : ℕ) : Outcome String Buffer := do
  match ← bytesToPubkey peerPubBytes with
  | .infinity => .throws "The peer sent the point at infinity"
  | .affine x y =>
      if ¬ isOnCurve (.affine x y) curveA then
        .throws "The peer sent a point that is not on the curve"
      else
        let inside ← isInPrimeSubgroup fuel (.affine x y)
        if ¬ inside then
          .throws "The peer sent a point outside the prime-order subgroup"
        else
          let scalar ← bytesToField privBytes
          match ← scalarMultiply fuel scalar (.affine x y) with
          | .infinity => .throws "The shared secret is the point at infinity"
          | .affine sharedX _ => pure (fieldToBytes sharedX)

/-- The private key that `AqaraTunnel.handshake` makes of what `randomBytes` gives. -/
def drawPrivate (random : Buffer) : Outcome String Buffer := do
  let drawn ← bytesToField random
  let priv := drawn % (1 <<< 163)
  pure (fieldToBytes (if priv = 0 then 1 else priv))

end Ecc
end Port
end AqaraLanLink
