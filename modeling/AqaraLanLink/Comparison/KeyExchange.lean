import AqaraLanLink.Port.Ecc.KeyAgreement
import AqaraLanLink.Reference.Ecc

/-!
# The two key exchanges

The curve arithmetic of the port and of the reference, written twice in two languages: on every
input their calls end alike, so that both clients derive one session key with one hub.
-/

namespace AqaraLanLink
namespace Comparison

open Library Library.Outcome

/-! ## The field -/

theorem gf2MulLoop_eq (result a b : ℕ) :
    Reference.Ecc.gf2MulLoop result a b = Port.Ecc.gfMulLoop result a b := by
  induction result, a, b using Reference.Ecc.gf2MulLoop.induct with
  | case1 result a => rw [Reference.Ecc.gf2MulLoop, Port.Ecc.gfMulLoop, if_pos rfl, if_pos rfl]
  | case2 result a b nonzero induction =>
      rw [Reference.Ecc.gf2MulLoop, Port.Ecc.gfMulLoop, if_neg nonzero, if_neg nonzero]
      exact induction

theorem gf2SqrLoop_eq (result a i : ℕ) :
    Reference.Ecc.gf2SqrLoop result a i = Port.Ecc.gfSqrLoop result a i := by
  induction result, a, i using Reference.Ecc.gf2SqrLoop.induct with
  | case1 result i => rw [Reference.Ecc.gf2SqrLoop, Port.Ecc.gfSqrLoop, if_pos rfl, if_pos rfl]
  | case2 result a i nonzero induction =>
      rw [Reference.Ecc.gf2SqrLoop, Port.Ecc.gfSqrLoop, if_neg nonzero, if_neg nonzero]
      exact induction

theorem fieldPoly_eq : Reference.Ecc.fieldPoly.val = Port.Ecc.fieldPoly := rfl

theorem gf2Mod_eq (a : ℕ) : Reference.Ecc.gf2Mod a = Port.Ecc.gfMod a := by
  induction a using Port.Ecc.gfMod.induct with
  | case1 a long induction =>
      rw [Port.Ecc.gfMod, if_pos long, ← induction, Reference.Ecc.gf2Mod, fieldPoly_eq]
      simp only [Port.Ecc.bitLength_eq_size] at long ⊢
      rw [if_pos long]
  | case2 a short =>
      rw [Port.Ecc.gfMod, if_neg short, Reference.Ecc.gf2Mod, fieldPoly_eq]
      simp only [Port.Ecc.bitLength_eq_size] at short
      rw [if_neg short]

theorem gf2MulMod_eq (a b : ℕ) : Reference.Ecc.gf2MulMod a b = Port.Ecc.gfMulMod a b := by
  rw [Reference.Ecc.gf2MulMod, Port.Ecc.gfMulMod, gf2Mod_eq, Reference.Ecc.gf2Mul, gf2MulLoop_eq,
    Port.Ecc.gfMul]

theorem gf2Sqr_eq (a : ℕ) : Reference.Ecc.gf2Sqr a = Port.Ecc.gfSqr a := by
  rw [Reference.Ecc.gf2Sqr, Port.Ecc.gfSqr, gf2Mod_eq, gf2SqrLoop_eq]

theorem gf2InvLoop_eq (fuel u v g1 g2 : ℕ) :
    Reference.Ecc.gf2InvLoop Reference.Ecc.fieldPoly fuel u v g1 g2 =
      Port.Ecc.gfInvLoop fuel u v g1 g2 := by
  induction fuel generalizing u v g1 g2 with
  | zero => rfl
  | succ fuel induction =>
      rw [Reference.Ecc.gf2InvLoop, Port.Ecc.gfInvLoop, gf2Mod_eq]
      simp only [Port.Ecc.bitLength_eq_size]
      by_cases done : u = 1
      · rw [if_pos done, if_pos done]
      · rw [if_neg done, if_neg done]
        by_cases shorter : u.size < v.size
        · have negative : (u.size : ℤ) - v.size < 0 := by omega
          have amount : (-((u.size : ℤ) - v.size)).toNat = v.size - u.size := by omega
          simp only [if_pos shorter, if_pos negative, amount, induction]
        · have positive : ¬ (u.size : ℤ) - v.size < 0 := by omega
          have amount : ((u.size : ℤ) - v.size).toNat = u.size - v.size := by omega
          simp only [if_neg shorter, if_neg positive, amount, induction]

theorem gf2Inv_matches (fuel a : ℕ) :
    Matches Eq (Reference.Ecc.gf2Inv fuel a) (Port.Ecc.gfInv fuel a) := by
  rw [Reference.Ecc.gf2Inv, Port.Ecc.gfInv]
  by_cases zero : a = 0
  · rw [if_pos zero, if_pos zero]
    exact .throws _ _
  · rw [if_neg zero, if_neg zero, fieldPoly_eq, gf2InvLoop_eq]
    cases Port.Ecc.gfInvLoop fuel a Port.Ecc.fieldPoly 1 0 with
    | returns value => exact .returns rfl
    | throws error => exact .throws _ _
    | running => exact .running

/-! ## The curve -/

/-- A point of the reference as the port holds it. -/
def toPort : Reference.Ecc.Point → Port.Ecc.Point
  | .infinity => .infinity
  | .affine x y => .affine x y

/-- One point, whose coordinates fit in the bytes of a key. -/
structure SamePoint (point : Reference.Ecc.Point) (point' : Port.Ecc.Point) : Prop where
  toPort_eq : toPort point = point'
  below : Port.Ecc.Below 192 point'

theorem samePoint_infinity : SamePoint .infinity .infinity := ⟨rfl, trivial⟩

theorem pointOnCurve_eq (point : Reference.Ecc.Point) (a : ℕ) :
    Reference.Ecc.pointOnCurve point a = Port.Ecc.isOnCurve (toPort point) a := by
  cases point with
  | infinity => rfl
  | affine x y =>
      simp only [Reference.Ecc.pointOnCurve, Port.Ecc.isOnCurve, toPort, gf2Sqr_eq, gf2MulMod_eq]
      rfl

theorem referenceCurveA_eq : Reference.Ecc.curveA = 1 := by
  have settles := Port.Ecc.settleCurveA_eq
  have candidates : (fun candidate => Reference.Ecc.pointOnCurve
      (.affine Reference.Ecc.genX Reference.Ecc.genY) candidate Reference.Ecc.curveB) =
        fun candidate => Port.Ecc.isOnCurve (.affine Port.Ecc.genX Port.Ecc.genY) candidate :=
    funext fun candidate => pointOnCurve_eq (.affine _ _) candidate
  rw [Port.Ecc.settleCurveA] at settles
  rw [Reference.Ecc.curveA, Reference.Ecc.validateCurveA, candidates]
  cases found : [1, 0].find? fun candidate =>
      Port.Ecc.isOnCurve (.affine Port.Ecc.genX Port.Ecc.genY) candidate with
  | none =>
      rw [found] at settles
      cases settles
  | some candidate =>
      rw [found] at settles
      exact Outcome.returns.inj settles

/-- Reduced or narrow numbers stay narrow under exclusive or. -/
theorem narrow_of_reduced {value : ℕ} (reduced : value < 2 ^ 163) : value < 2 ^ 192 :=
  reduced.trans (by norm_num)

theorem pointDouble_matches (fuel : ℕ) {point : Reference.Ecc.Point} {point' : Port.Ecc.Point}
    (same : SamePoint point point') :
    Matches SamePoint (Reference.Ecc.pointDouble fuel point) (Port.Ecc.pointDouble fuel point') := by
  obtain ⟨rfl, below⟩ := same
  cases point with
  | infinity => exact .returns samePoint_infinity
  | affine x y =>
      rw [Reference.Ecc.pointDouble, toPort, Port.Ecc.pointDouble, referenceCurveA_eq,
        Port.Ecc.curveA_eq]
      by_cases zero : x = 0
      · rw [if_pos zero, if_pos zero]
        exact .returns samePoint_infinity
      · rw [if_neg zero, if_neg zero]
        refine Matches.bind (gf2Inv_matches fuel x) ?_
        rintro inverse _ rfl
        simp only [gf2Sqr_eq, gf2MulMod_eq]
        have product := narrow_of_reduced (Port.Ecc.gfMulMod_lt y inverse)
        have slope : x ^^^ Port.Ecc.gfMulMod y inverse < 2 ^ 192 :=
          Nat.xor_lt_two_pow below.1 product
        generalize x ^^^ Port.Ecc.gfMulMod y inverse = lam at slope ⊢
        have abscissa : Port.Ecc.gfSqr lam ^^^ lam ^^^ 1 < 2 ^ 192 :=
          Nat.xor_lt_two_pow (Nat.xor_lt_two_pow (narrow_of_reduced (Port.Ecc.gfSqr_lt lam)) slope)
            (by norm_num)
        refine .returns ⟨rfl, abscissa, ?_⟩
        exact Nat.xor_lt_two_pow (Nat.xor_lt_two_pow (narrow_of_reduced (Port.Ecc.gfSqr_lt x))
          (narrow_of_reduced (Port.Ecc.gfMulMod_lt _ _))) abscissa

theorem pointAdd_matches (fuel : ℕ) {p q : Reference.Ecc.Point} {p' q' : Port.Ecc.Point}
    (same : SamePoint p p') (same' : SamePoint q q') :
    Matches SamePoint (Reference.Ecc.pointAdd fuel p q) (Port.Ecc.pointAdd fuel p' q') := by
  obtain ⟨rfl, below⟩ := same
  obtain ⟨rfl, below'⟩ := same'
  cases p with
  | infinity => exact .returns ⟨rfl, below'⟩
  | affine px py =>
      cases q with
      | infinity => exact .returns ⟨rfl, below⟩
      | affine qx qy =>
          rw [Reference.Ecc.pointAdd, toPort, toPort, Port.Ecc.pointAdd]
          by_cases vertical : px = qx
          · rw [if_pos vertical, if_pos vertical]
            by_cases equal : py = qy
            · rw [if_pos equal, if_pos equal]
              exact pointDouble_matches fuel ⟨rfl, below⟩
            · rw [if_neg equal, if_neg equal]
              exact .returns samePoint_infinity
          · rw [if_neg vertical, if_neg vertical]
            refine Matches.bind (gf2Inv_matches fuel (px ^^^ qx)) ?_
            rintro inverse _ rfl
            simp only [gf2Sqr_eq, gf2MulMod_eq, referenceCurveA_eq, Port.Ecc.curveA_eq]
            have slope := narrow_of_reduced (Port.Ecc.gfMulMod_lt (py ^^^ qy) inverse)
            generalize Port.Ecc.gfMulMod (py ^^^ qy) inverse = lam at slope ⊢
            have abscissa : Port.Ecc.gfSqr lam ^^^ lam ^^^ (px ^^^ qx) ^^^ 1 < 2 ^ 192 :=
              Nat.xor_lt_two_pow (Nat.xor_lt_two_pow (Nat.xor_lt_two_pow
                (narrow_of_reduced (Port.Ecc.gfSqr_lt lam)) slope)
                  (Nat.xor_lt_two_pow below.1 below'.1)) (by norm_num)
            refine .returns ⟨rfl, abscissa, ?_⟩
            exact Nat.xor_lt_two_pow (Nat.xor_lt_two_pow
              (narrow_of_reduced (Port.Ecc.gfMulMod_lt _ _)) abscissa) below.2

/-- The loop over the bits, from the top one down. -/
theorem doubleAndAdd_matches (fuel k i : ℕ) {point result : Reference.Ecc.Point}
    {point' result' : Port.Ecc.Point} (same : SamePoint point point')
    (same' : SamePoint result result') :
    Matches SamePoint
      ((List.range i).reverse.foldlM
        (Reference.Ecc.doubleAndAdd fuel k point Reference.Ecc.curveA) result)
      (Port.Ecc.multiplyLoop fuel k point' i result') := by
  induction i generalizing result result' with
  | zero => exact .returns same'
  | succ i induction =>
      have bit : (k >>> i &&& 1 ≠ 0) = (k.testBit i = true) := by
        rw [Nat.testBit, Nat.and_comm, bne_iff_ne]
      have turn : Matches SamePoint
          (Reference.Ecc.doubleAndAdd fuel k point Reference.Ecc.curveA result i)
          (Port.Ecc.multiplyTurn fuel point' (k.testBit i) result') := by
        rw [Reference.Ecc.doubleAndAdd, Port.Ecc.multiplyTurn]
        refine Matches.bind (pointDouble_matches fuel same') fun doubled doubled' same'' => ?_
        simp only [bit]
        cases k.testBit i with
        | true => exact pointAdd_matches fuel same'' same
        | false => exact .returns same''
      rw [List.range_succ, List.reverse_append, List.reverse_singleton, List.singleton_append,
        List.foldlM_cons, Port.Ecc.multiplyLoop_succ]
      exact turn.bind fun next next' => induction

theorem mulNoReduce_matches (fuel k : ℕ) {point : Reference.Ecc.Point} {point' : Port.Ecc.Point}
    (same : SamePoint point point') :
    Matches SamePoint (Reference.Ecc.mulNoReduce fuel k point) (Port.Ecc.multiply fuel k point') := by
  rw [Reference.Ecc.mulNoReduce, Reference.Ecc.bitsDown, Port.Ecc.multiply,
    Port.Ecc.bitLength_eq_size]
  exact doubleAndAdd_matches fuel k k.size same samePoint_infinity

theorem scalarMult_matches (fuel k : ℕ) {point : Reference.Ecc.Point} {point' : Port.Ecc.Point}
    (same : SamePoint point point') :
    Matches SamePoint (Reference.Ecc.scalarMult fuel k point)
      (Port.Ecc.scalarMultiply fuel k point') := by
  have order : Reference.Ecc.curveOrder = Port.Ecc.curveOrder := rfl
  have scalar : (k % Port.Ecc.curveOrder + Port.Ecc.curveOrder) % Port.Ecc.curveOrder =
      k % Port.Ecc.curveOrder := by rw [Nat.add_mod_right, Nat.mod_mod]
  obtain ⟨rfl, below⟩ := same
  cases point with
  | infinity =>
      rw [Reference.Ecc.scalarMult, if_pos (Or.inr rfl), toPort, Port.Ecc.scalarMultiply, scalar]
      by_cases zero : k % Port.Ecc.curveOrder = 0
      · rw [if_pos zero]
        exact .returns samePoint_infinity
      · rw [if_neg zero]
        exact .returns samePoint_infinity
  | affine x y =>
      rw [Reference.Ecc.scalarMult, order, toPort, Port.Ecc.scalarMultiply, scalar]
      by_cases zero : k % Port.Ecc.curveOrder = 0
      · simp only [zero, if_true, ite_self]
        exact .returns samePoint_infinity
      · have nonzero : k ≠ 0 := by
          rintro rfl
          exact zero (Nat.zero_mod _)
        have finite : ¬ (k = 0 ∨ Reference.Ecc.Point.affine x y = .infinity) := by simp [nonzero]
        simp only [if_neg finite, if_neg zero]
        exact mulNoReduce_matches fuel (k % Port.Ecc.curveOrder) ⟨rfl, below⟩

/-! ## Byte codecs -/

theorem ofLittle_eq (data : List UInt8) : Endian.ofLittle data = Port.Ecc.littleEndian data := by
  induction data with
  | nil => rfl
  | cons byte data induction => rw [Endian.ofLittle, Port.Ecc.littleEndian_cons, induction, add_comm]

theorem littleBytes_eq (turns value : ℕ) :
    Endian.littleBytes turns value = Port.Ecc.fieldToBytesLoop turns value := by
  induction turns generalizing value with
  | zero => rfl
  | succ turns induction =>
      have low : value &&& 0xFF = value % 256 := Nat.and_two_pow_sub_one_eq_mod value 8
      have high : value >>> 8 = value / 256 := Nat.shiftRight_eq_div_pow value 8
      rw [Endian.littleBytes, Port.Ecc.fieldToBytesLoop, induction, low, high]

theorem bytesToField_eq (data : List UInt8) :
    Reference.Ecc.bytesToField data = Port.Ecc.bytesToField data := by
  rw [Reference.Ecc.bytesToField, Port.Ecc.bytesToField, ofLittle_eq]
  rfl

theorem fieldToBytes_eq {value : ℕ} (fits : value < 2 ^ 192) :
    Reference.Ecc.fieldToBytes value = .returns (Port.Ecc.fieldToBytes value) := by
  have room : value < 256 ^ Reference.Ecc.keyBytes := fits.trans_eq (by norm_num [Reference.Ecc.keyBytes])
  rw [Reference.Ecc.fieldToBytes, if_pos room, littleBytes_eq]
  rfl

theorem pubkeyToBytes_eq {x y : ℕ} (below : Port.Ecc.Below 192 (.affine x y)) :
    Reference.Ecc.pubkeyToBytes x y = .returns (Port.Ecc.pubkeyToBytes x y) := by
  rw [Reference.Ecc.pubkeyToBytes, fieldToBytes_eq below.1, fieldToBytes_eq below.2]
  rfl

theorem bytesToPubkey_matches (data : List UInt8) :
    Matches (fun pair point => SamePoint (.affine pair.1 pair.2) point)
      (Reference.Ecc.bytesToPubkey data) (Port.Ecc.bytesToPubkey data) := by
  by_cases length : data.length = Port.Ecc.pubkeyBytes
  · have left : (data.take Port.Ecc.keyBytes).length = Port.Ecc.keyBytes := by
      rw [List.length_take, length]
      rfl
    have right : (data.drop Port.Ecc.keyBytes).length = Port.Ecc.keyBytes := by
      rw [List.length_drop, length]
      rfl
    have decoded : Reference.Ecc.bytesToPubkey data =
        .returns (Port.Ecc.peerX data, Port.Ecc.peerY data) := by
      have accepted : ¬ data.length ≠ Reference.Ecc.pubkeyBytes := not_not.mpr length
      rw [Reference.Ecc.bytesToPubkey, if_neg accepted, bytesToField_eq, bytesToField_eq]
      exact congrArg₂ (fun x y => x >>= fun x => y >>= fun y => pure (x, y))
        (Port.Ecc.bytesToField_of_length left) (Port.Ecc.bytesToField_of_length right)
    rw [decoded, Port.Ecc.bytesToPubkey_of_length length]
    exact .returns ⟨rfl, Port.Ecc.peer_below length⟩
  · have refused : data.length ≠ Reference.Ecc.pubkeyBytes := length
    rw [Reference.Ecc.bytesToPubkey, if_pos refused, Port.Ecc.bytesToPubkey, if_pos length]
    exact .throws _ _

/-! ## The calls of the handshake -/

theorem samePoint_generator : SamePoint Reference.Ecc.generator Port.Ecc.generator :=
  ⟨rfl, by decide, by decide⟩

theorem publicKey_matches (priv : List UInt8) (fuel : ℕ) :
    Matches Eq (Reference.Ecc.ecdhPubkeyFromPrivkey priv fuel)
      (Port.Ecc.publicKeyFromPrivate priv fuel) := by
  rw [Reference.Ecc.ecdhPubkeyFromPrivkey, Port.Ecc.publicKeyFromPrivate, bytesToField_eq]
  cases Port.Ecc.bytesToField priv with
  | throws error => exact .throws _ _
  | running => exact .running
  | returns scalar =>
      rw [returns_bind, returns_bind]
      refine (scalarMult_matches fuel scalar samePoint_generator).bind ?_
      rintro point _ ⟨rfl, below⟩
      cases point with
      | infinity => exact .throws _ _
      | affine x y =>
          simp only [toPort, pubkeyToBytes_eq below]
          exact .returns rfl

theorem isInPrimeSubgroup_matches (fuel : ℕ) {point : Reference.Ecc.Point}
    {point' : Port.Ecc.Point} (same : SamePoint point point') :
    Matches Eq (Reference.Ecc.isInPrimeSubgroup fuel point)
      (Port.Ecc.isInPrimeSubgroup fuel point') := by
  refine (mulNoReduce_matches fuel Reference.Ecc.curveOrder same).bind ?_
  rintro product _ ⟨rfl, -⟩
  cases product with
  | infinity => exact .returns rfl
  | affine x y => exact .returns rfl

/-- The calls with a private key of the right length; the reference decodes it first and the port
last. -/
theorem sharedSecret_matches {priv : List UInt8} (length : priv.length = Port.Ecc.keyBytes)
    (peer : List UInt8) (fuel : ℕ) :
    Matches Eq (Reference.Ecc.ecdhSharedSecret priv peer fuel)
      (Port.Ecc.sharedSecret priv peer fuel) := by
  rw [Reference.Ecc.ecdhSharedSecret, Port.Ecc.sharedSecret, bytesToField_eq,
    Port.Ecc.bytesToField_of_length length, returns_bind]
  refine (bytesToPubkey_matches peer).bind ?_
  rintro ⟨x, y⟩ _ ⟨rfl, below⟩
  simp only [toPort]
  have curve : Reference.Ecc.pointOnCurve (.affine x y) 1 Reference.Ecc.curveB =
      Port.Ecc.isOnCurve (.affine x y) Port.Ecc.curveA := by
    rw [pointOnCurve_eq, Port.Ecc.curveA_eq]
    rfl
  rw [curve]
  cases Port.Ecc.isOnCurve (.affine x y) Port.Ecc.curveA with
  | false => exact .throws _ _
  | true =>
      simp only [not_true_eq_false, if_false]
      refine (isInPrimeSubgroup_matches fuel ⟨rfl, below⟩).bind ?_
      rintro inside _ rfl
      cases inside with
      | false => exact .throws _ _
      | true =>
          simp only [not_true_eq_false, if_false, returns_bind]
          refine (scalarMult_matches fuel (Port.Ecc.littleEndian priv) ⟨rfl, below⟩).bind ?_
          rintro product _ ⟨rfl, product_below⟩
          cases product with
          | infinity => exact .throws _ _
          | affine x' y' =>
              simp only [toPort, fieldToBytes_eq product_below.1]
              exact .returns rfl

/-- On one input the calls of the two key exchanges end alike: they return the same bytes, both
throw, or both run on.  A private key of the wrong length gives no secret on either side. -/
theorem keyExchange_matches (priv peer : List UInt8) (fuel : ℕ) :
    Matches Eq (Reference.Ecc.ecdhPubkeyFromPrivkey priv fuel)
        (Port.Ecc.publicKeyFromPrivate priv fuel) ∧
      if priv.length = Port.Ecc.keyBytes then
        Matches Eq (Reference.Ecc.ecdhSharedSecret priv peer fuel)
          (Port.Ecc.sharedSecret priv peer fuel)
      else
        (∃ error, Reference.Ecc.ecdhSharedSecret priv peer fuel = .throws error) ∧
          ∀ secret, Port.Ecc.sharedSecret priv peer fuel ≠ .returns secret := by
  refine ⟨publicKey_matches priv fuel, ?_⟩
  split
  · exact sharedSecret_matches ‹_› peer fuel
  · rename_i wrong
    have refused : Port.Ecc.bytesToField priv = .throws _ := if_pos wrong
    refine ⟨⟨_, by rw [Reference.Ecc.ecdhSharedSecret, bytesToField_eq, refused, throws_bind]⟩, ?_⟩
    intro secret returned
    rw [Port.Ecc.sharedSecret, refused] at returned
    simp only [throws_bind] at returned
    generalize Port.Ecc.bytesToPubkey peer = decoded at returned
    cases decoded with
    | throws error => cases returned
    | running => cases returned
    | returns point =>
        cases point with
        | infinity => cases returned
        | affine x y =>
            simp only [returns_bind] at returned
            split at returned
            · cases returned
            · generalize Port.Ecc.isInPrimeSubgroup fuel (.affine x y) = inside at returned
              cases inside with
              | throws error => cases returned
              | running => cases returned
              | returns inside => cases inside <;> cases returned

/-! ## A client of each kind -/

/-- The two clients make one private key of the same random bytes. -/
theorem drawPrivate_eq {random : List UInt8} (length : random.length = Port.Ecc.keyBytes) :
    Reference.Ecc.drawPrivate random = Port.Ecc.drawPrivate random := by
  have bounded : Port.Ecc.littleEndian random % (1 <<< 163) < 1 <<< 163 :=
    Nat.mod_lt _ (by decide)
  rw [Reference.Ecc.drawPrivate, ofLittle_eq, Port.Ecc.drawPrivate,
    Port.Ecc.bytesToField_of_length length, returns_bind]
  apply fieldToBytes_eq
  split
  · norm_num
  · exact bounded.trans (by decide)

/-- The number that the bytes of a key exchange are drawn as. -/
def drawn (random : List UInt8) : ℕ := Port.Ecc.littleEndian random % (1 <<< 163)

/-- The private key of a draw; it is zero modulo the order for one draw only. -/
theorem drawPrivate_returns {random : List UInt8} (length : random.length = Port.Ecc.keyBytes) :
    ∃ priv, Port.Ecc.drawPrivate random = .returns priv ∧ priv.length = Port.Ecc.keyBytes ∧
      (Port.Ecc.littleEndian priv % Port.Ecc.curveOrder = 0 ↔
        drawn random = Port.Ecc.curveOrder) := by
  have bounded : drawn random < 1 <<< 163 := Nat.mod_lt _ (by decide)
  have room : (if drawn random = 0 then 1 else drawn random) < 256 ^ Port.Ecc.keyBytes := by
    split
    · norm_num [Port.Ecc.keyBytes]
    · exact bounded.trans (by decide)
  refine ⟨Port.Ecc.fieldToBytes (if drawn random = 0 then 1 else drawn random), ?_,
    Port.Ecc.length_fieldToBytes _, ?_⟩
  · rw [Port.Ecc.drawPrivate, Port.Ecc.bytesToField_of_length length]
    rfl
  · rw [Port.Ecc.fieldToBytes, Port.Ecc.littleEndian_fieldToBytesLoop room]
    -- the order has 163 bits, so that no other draw is a multiple of it
    have order : Port.Ecc.curveOrder = 0x040000000000000000000292FE77E70C12A4234C33 := rfl
    have limit : (1 <<< 163 : ℕ) = 0x080000000000000000000000000000000000000000 := rfl
    rw [limit] at bounded
    rw [order]
    split <;> omega

/-- Only a private key that is zero modulo the order has no public key. -/
theorem publicKey_throws {priv : List UInt8} (length : priv.length = Port.Ecc.keyBytes)
    (zero : Port.Ecc.littleEndian priv % Port.Ecc.curveOrder = 0) (fuel : ℕ) :
    Port.Ecc.publicKeyFromPrivate priv fuel =
      .throws "That private key produces the point at infinity" := by
  have scalar : (Port.Ecc.littleEndian priv % Port.Ecc.curveOrder + Port.Ecc.curveOrder) %
      Port.Ecc.curveOrder = 0 := by rw [Nat.add_mod_right, zero, Nat.zero_mod]
  have infinity : Port.Ecc.scalarMultiply fuel (Port.Ecc.littleEndian priv) Port.Ecc.generator =
      .returns .infinity := by
    rw [Port.Ecc.scalarMultiply.eq_def]
    simp only [scalar, if_true, pure_eq]
  rw [Port.Ecc.publicKeyFromPrivate, Port.Ecc.bytesToField_of_length length, returns_bind,
    infinity, returns_bind]

/-- The multiple of the generator by both scalars is the secret with either public key. -/
theorem exists_sharedSecret {a b : List UInt8} (aLength : a.length = Port.Ecc.keyBytes)
    (bLength : b.length = Port.Ecc.keyBytes)
    (aScalar : Port.Ecc.littleEndian a % Port.Ecc.curveOrder ≠ 0)
    (bScalar : Port.Ecc.littleEndian b % Port.Ecc.curveOrder ≠ 0) :
    ∃ aPub bPub secret, Yields (Port.Ecc.publicKeyFromPrivate a) aPub ∧
      Yields (Port.Ecc.publicKeyFromPrivate b) bPub ∧ Yields (Port.Ecc.sharedSecret a bPub) secret ∧
      Yields (Port.Ecc.sharedSecret b aPub) secret := by
  have member (k : ℕ) : k • Port.Ecc.generatorPoint ∈ Port.Ecc.primeSubgroup :=
    AddSubgroup.nsmul_mem _ (AddSubgroup.mem_zmultiples _) k
  have decoded {x y : ℕ} (below : Port.Ecc.Below 163 (.affine x y)) :=
    Port.Ecc.bytesToPubkey_pubkeyToBytes (narrow_of_reduced below.1) (narrow_of_reduced below.2)
  obtain ⟨ax, ay, aBelow, aRepresents, aPublic⟩ :=
    Port.Ecc.publicKeyFromPrivate_returns aLength aScalar
  obtain ⟨bx, ordinate, bBelow, bRepresents, bPublic⟩ :=
    Port.Ecc.publicKeyFromPrivate_returns bLength bScalar
  obtain ⟨x, y, below, represents, aShared⟩ :=
    Port.Ecc.sharedSecret_returns aLength aScalar (decoded bBelow) bBelow bRepresents (member _)
  obtain ⟨x', y', below', represents', bShared⟩ :=
    Port.Ecc.sharedSecret_returns bLength bScalar (decoded aBelow) aBelow aRepresents (member _)
  rw [nsmul_left_comm] at represents'
  obtain ⟨rfl, rfl⟩ := Port.Ecc.Point.affine.inj (represents.unique represents' below below')
  exact ⟨_, _, _, ⟨327, aPublic⟩, ⟨327, bPublic⟩, ⟨327, aShared⟩, ⟨327, bShared⟩⟩

theorem yields_iff {call call' : ℕ → Outcome String (List UInt8)}
    (same : ∀ fuel, Matches Eq (call fuel) (call' fuel)) (value : List UInt8) :
    Yields call value ↔ Yields call' value := by
  have pointwise : ∀ fuel, call fuel = .returns value ↔ call' fuel = .returns value :=
    fun fuel => (same fuel).returns_iff value
  simp only [Yields, pointwise]

/-- A port and a reference that draw their private keys from these bytes and are sent each other's
public key have one secret. -/
def Agree (mine theirs : List UInt8) : Prop :=
  ∃ minePriv theirsPriv minePub theirsPub secret,
    Port.Ecc.drawPrivate mine = .returns minePriv ∧
    Reference.Ecc.drawPrivate theirs = .returns theirsPriv ∧
    Yields (Port.Ecc.publicKeyFromPrivate minePriv) minePub ∧
    Yields (Reference.Ecc.ecdhPubkeyFromPrivkey theirsPriv) theirsPub ∧
    Yields (Port.Ecc.sharedSecret minePriv theirsPub) secret ∧
    Yields (Reference.Ecc.ecdhSharedSecret theirsPriv minePub) secret

/-- The exchange completes unless one of the two draws the order of the curve. -/
theorem agree_iff (mine theirs : List UInt8) (length : mine.length = Port.Ecc.keyBytes)
    (length' : theirs.length = Port.Ecc.keyBytes) :
    Agree mine theirs ↔
      drawn mine ≠ Port.Ecc.curveOrder ∧ drawn theirs ≠ Port.Ecc.curveOrder := by
  obtain ⟨minePriv, mineDrawn, mineLength, mineScalar⟩ := drawPrivate_returns length
  obtain ⟨theirsPriv, theirsDrawn, theirsLength, theirsScalar⟩ := drawPrivate_returns length'
  rw [← drawPrivate_eq length'] at theirsDrawn
  constructor
  · rintro ⟨_, _, minePub, theirsPub, -, mineDrawn', theirsDrawn', minePublic, theirsPublic, -⟩
    obtain rfl := Outcome.returns.inj (mineDrawn.symm.trans mineDrawn')
    obtain rfl := Outcome.returns.inj (theirsDrawn.symm.trans theirsDrawn')
    rw [yields_iff (publicKey_matches theirsPriv)] at theirsPublic
    obtain ⟨enough, returned⟩ := minePublic
    obtain ⟨enough', returned'⟩ := theirsPublic
    constructor
    · intro order
      have threw := publicKey_throws mineLength (mineScalar.mpr order) enough
      rw [returned enough le_rfl] at threw
      cases threw
    · intro order
      have threw := publicKey_throws theirsLength (theirsScalar.mpr order) enough'
      rw [returned' enough' le_rfl] at threw
      cases threw
  · rintro ⟨mineGood, theirsGood⟩
    obtain ⟨minePub, theirsPub, secret, minePublic, theirsPublic, mineShared, theirsShared⟩ :=
      exists_sharedSecret mineLength theirsLength (mt mineScalar.mp mineGood)
        (mt theirsScalar.mp theirsGood)
    exact ⟨minePriv, theirsPriv, minePub, theirsPub, secret, mineDrawn, theirsDrawn, minePublic,
      (yields_iff (publicKey_matches theirsPriv) _).mpr theirsPublic, mineShared,
      (yields_iff (sharedSecret_matches theirsLength minePub) _).mpr theirsShared⟩

theorem agree_one_two :
    Agree (1 :: List.replicate 23 0) (2 :: List.replicate 23 0) ↔
      drawn (1 :: List.replicate 23 0) ≠ Port.Ecc.curveOrder ∧
        drawn (2 :: List.replicate 23 0) ≠ Port.Ecc.curveOrder :=
  agree_iff _ _ rfl rfl

end Comparison
end AqaraLanLink
