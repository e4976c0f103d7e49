import AqaraLanLink.Library.BinaryPolynomial
import AqaraLanLink.Library.Endian
import AqaraLanLink.Library.Outcome

/-!
# The reference's elliptic-curve arithmetic

`hub/ecc.py`: the binary field, the curve and the two calls of the handshake.  An `int` is never
negative here and is a natural number, `bytes` are a list of bytes.  The loop of `gf2_inv` is not
bounded by its input and runs on fuel, which every function above it passes on.
-/

namespace AqaraLanLink
namespace Reference
namespace Ecc

open Library

/-- A polynomial to reduce by.  Division by zero would never end, and no caller asks for it. -/
abbrev Poly : Type := { poly : ℕ // poly ≠ 0 }

/-- `FIELD_POLY`: x^163 + x^7 + x^6 + x^3 + 1. -/
def fieldPoly : Poly := ⟨(1 <<< 163) ||| (1 <<< 7) ||| (1 <<< 6) ||| (1 <<< 3) ||| 1, by decide⟩

def curveB : ℕ := 0x020A601907B8C953CA1481EB10512F78744A3205FD
def genX : ℕ := 0x03F0EBA16286A2D57EA0991168D4994637E8343E36
def genY : ℕ := 0x00D51FBC6C71A0094FA2CDD545B11C5C0C797324F1
def curveOrder : ℕ := 0x040000000000000000000292FE77E70C12A4234C33

/-- `KEY_BYTES` and `PUBKEY_BYTES`. -/
def keyBytes : ℕ := 24
def pubkeyBytes : ℕ := 48

/-! ## Serialization -/

/-- `field_to_bytes`. -/
def fieldToBytes (value : ℕ) : Outcome String (List UInt8) :=
  if value < 256 ^ keyBytes then .returns (Endian.littleBytes keyBytes value)
  else .throws "int too big to convert"

/-- `bytes_to_field`. -/
def bytesToField (data : List UInt8) : Outcome String ℕ :=
  if data.length ≠ keyBytes then .throws s!"Expected {keyBytes} bytes, got {data.length}"
  else .returns (Endian.ofLittle data)

/-- `pubkey_to_bytes`. -/
def pubkeyToBytes (x y : ℕ) : Outcome String (List UInt8) := do
  let xBytes ← fieldToBytes x
  let yBytes ← fieldToBytes y
  pure (xBytes ++ yBytes)

/-- `bytes_to_pubkey`. -/
def bytesToPubkey (data : List UInt8) : Outcome String (ℕ × ℕ) :=
  if data.length ≠ pubkeyBytes then .throws s!"Expected {pubkeyBytes} bytes, got {data.length}"
  else do
    let x ← bytesToField (data.take keyBytes)
    let y ← bytesToField (data.drop keyBytes)
    pure (x, y)

/-! ## The field -/

/-- The loop of `gf2_mul`. -/
def gf2MulLoop (result a b : ℕ) : ℕ :=
  if b = 0 then result
  else gf2MulLoop (if b &&& 1 ≠ 0 then result ^^^ a else result) (a <<< 1) (b >>> 1)
termination_by b
decreasing_by
  rw [Nat.shiftRight_one]
  omega

/-- `gf2_mul`. -/
def gf2Mul (a b : ℕ) : ℕ := gf2MulLoop 0 a b

/-- `gf2_mod`; `int.bit_length` is `Nat.size`. -/
def gf2Mod (a : ℕ) (poly : Poly := fieldPoly) : ℕ :=
  if poly.val.size ≤ a.size then gf2Mod (a ^^^ poly.val <<< (a.size - poly.val.size)) poly
  else a
termination_by a.size
decreasing_by exact BinaryPolynomial.size_xor_shiftLeft_lt poly.property ‹_›

/-- `gf2_mulmod`. -/
def gf2MulMod (a b : ℕ) (poly : Poly := fieldPoly) : ℕ := gf2Mod (gf2Mul a b) poly

/-- The loop of `gf2_sqr`. -/
def gf2SqrLoop (result a i : ℕ) : ℕ :=
  if a = 0 then result
  else gf2SqrLoop (if a &&& 1 ≠ 0 then result ||| 1 <<< (2 * i) else result) (a >>> 1) (i + 1)
termination_by a
decreasing_by
  rw [Nat.shiftRight_one]
  omega

/-- `gf2_sqr`. -/
def gf2Sqr (a : ℕ) (poly : Poly := fieldPoly) : ℕ := gf2Mod (gf2SqrLoop 0 a 0) poly

/-- The loop of `gf2_inv`, with the swap of its two sides. -/
def gf2InvLoop (poly : Poly) : ℕ → ℕ → ℕ → ℕ → ℕ → Outcome String ℕ
  | 0, _, _, _, _ => .running
  | fuel + 1, u, v, g1, g2 =>
      if u = 1 then .returns (gf2Mod g1 poly)
      else
        let j : ℤ := (u.size : ℤ) - v.size
        let (u, v, g1, g2, j) := if j < 0 then (v, u, g2, g1, -j) else (u, v, g1, g2, j)
        gf2InvLoop poly fuel (u ^^^ v <<< j.toNat) v (g1 ^^^ g2 <<< j.toNat) g2

/-- `gf2_inv`. -/
def gf2Inv (fuel a : ℕ) (poly : Poly := fieldPoly) : Outcome String ℕ :=
  if a = 0 then .throws "Cannot invert 0 in GF(2^m)" else gf2InvLoop poly fuel a poly.val 1 0

/-! ## The curve -/

/-- `Point`; `INFINITY` has neither coordinate. -/
inductive Point where
  | infinity
  | affine (x y : ℕ)
  deriving DecidableEq, Repr

/-- `point_on_curve`. -/
def pointOnCurve (p : Point) (a : ℕ := 1) (b : ℕ := curveB) : Bool :=
  match p with
  | .infinity => true
  | .affine x y =>
      let lhs := gf2Sqr y ^^^ gf2MulMod x y
      let xSq := gf2Sqr x
      let xCb := gf2MulMod xSq x
      let rhs := xCb ^^^ gf2MulMod a xSq ^^^ b
      lhs == rhs

/-- `_validate_curve_a`, which runs when the module is imported. -/
def validateCurveA : Outcome String ℕ :=
  match [1, 0].find? fun candidate => pointOnCurve (.affine genX genY) candidate curveB with
  | some candidate => .returns candidate
  | none => .throws "Captured generator does not lie on the curve for either a=0 or a=1"

/-- `CURVE_A`; the module is not imported when the validation raises. -/
def curveA : ℕ :=
  match validateCurveA with
  | .returns candidate => candidate
  | _ => 0

/-- `point_double`. -/
def pointDouble (fuel : ℕ) (p : Point) (a : ℕ := curveA) : Outcome String Point :=
  match p with
  | .infinity => pure .infinity
  | .affine x y =>
      if x = 0 then pure .infinity
      else do
        let lam := x ^^^ gf2MulMod y (← gf2Inv fuel x)
        let x3 := gf2Sqr lam ^^^ lam ^^^ a
        let y3 := gf2Sqr x ^^^ gf2MulMod lam x3 ^^^ x3
        pure (.affine x3 y3)

/-- `point_add`. -/
def pointAdd (fuel : ℕ) (p q : Point) (a : ℕ := curveA) : Outcome String Point :=
  match p, q with
  | .infinity, q => pure q
  | p, .infinity => pure p
  | .affine px py, .affine qx qy =>
      if px = qx then
        if py = qy then pointDouble fuel (.affine px py) a else pure .infinity
      else do
        let dx := px ^^^ qx
        let dy := py ^^^ qy
        let lam := gf2MulMod dy (← gf2Inv fuel dx)
        let x3 := gf2Sqr lam ^^^ lam ^^^ dx ^^^ a
        let y3 := gf2MulMod lam (px ^^^ x3) ^^^ x3 ^^^ py
        pure (.affine x3 y3)

/-- The bits of a scalar, in the order of `range(k.bit_length() - 1, -1, -1)`. -/
def bitsDown (k : ℕ) : List ℕ := (List.range k.size).reverse

/-- One turn of the loops of `scalar_mult` and `_mul_no_reduce`. -/
def doubleAndAdd (fuel k : ℕ) (p : Point) (a : ℕ) (result : Point) (i : ℕ) :
    Outcome String Point := do
  let result ← pointDouble fuel result a
  if (k >>> i) &&& 1 ≠ 0 then pointAdd fuel result p a else pure result

/-- `scalar_mult`. -/
def scalarMult (fuel k : ℕ) (p : Point) (a : ℕ := curveA) : Outcome String Point :=
  if k = 0 ∨ p = .infinity then pure .infinity
  else
    let k := k % curveOrder
    if k = 0 then pure .infinity
    else (bitsDown k).foldlM (doubleAndAdd fuel k p a) .infinity

/-- `_mul_no_reduce`. -/
def mulNoReduce (fuel k : ℕ) (p : Point) : Outcome String Point :=
  (bitsDown k).foldlM (doubleAndAdd fuel k p curveA) .infinity

/-- `_is_in_prime_subgroup`. -/
def isInPrimeSubgroup (fuel : ℕ) (p : Point) : Outcome String Bool := do
  let product ← mulNoReduce fuel curveOrder p
  pure (product == .infinity)

/-! ## What the handshake asks for -/

/-- `GENERATOR`. -/
def generator : Point := .affine genX genY

/-- `ecdh_pubkey_from_privkey`. -/
def ecdhPubkeyFromPrivkey (privBytes : List UInt8) (fuel : ℕ) : Outcome String (List UInt8) := do
  let priv ← bytesToField privBytes
  match ← scalarMult fuel priv generator with
  | .infinity => .throws "Private key produced point at infinity"
  | .affine x y => pubkeyToBytes x y

/-- `ecdh_shared_secret`. -/
def ecdhSharedSecret (privBytes peerPubBytes : List UInt8) (fuel : ℕ) :
    Outcome String (List UInt8) := do
  let priv ← bytesToField privBytes
  let (peerX, peerY) ← bytesToPubkey peerPubBytes
  let peer := Point.affine peerX peerY
  if ¬ pointOnCurve peer then .throws "Peer public key is not on the curve"
  else
    let inside ← isInPrimeSubgroup fuel peer
    if ¬ inside then .throws "Peer public key is not in the prime-order subgroup"
    else
      match ← scalarMult fuel priv peer with
      | .infinity => .throws "Shared secret is point at infinity"
      | .affine x _ => fieldToBytes x

/-- The private key that `EncryptedTunnel._handshake` makes of what `os.urandom` gives. -/
def drawPrivate (random : List UInt8) : Outcome String (List UInt8) :=
  let priv := Endian.ofLittle random % (1 <<< 163)
  fieldToBytes (if priv = 0 then 1 else priv)

end Ecc
end Reference
end AqaraLanLink
