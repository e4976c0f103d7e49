import AqaraLanLink.Port.Ecc.Multiply
import AqaraLanLink.Port.Ecc.Order

/-!
# What the handshake asks of the curve

The byte codecs, the public key of a private one, the shared secret, and which peer keys the
validation of `sharedSecret` gets right.
-/

namespace AqaraLanLink
namespace Port
namespace Ecc

open Library Library.Outcome

/-! ## Byte codecs -/

@[simp] theorem length_fieldToBytesLoop (turns rest : ℕ) :
    (fieldToBytesLoop turns rest).length = turns := by
  induction turns generalizing rest with
  | zero => rfl
  | succ turns induction => simp [fieldToBytesLoop, induction]

@[simp] theorem length_fieldToBytes (value : ℕ) : (fieldToBytes value).length = keyBytes :=
  length_fieldToBytesLoop keyBytes value

theorem littleEndian_cons (byte : UInt8) (data : Buffer) :
    littleEndian (byte :: data) = 256 * littleEndian data + byte.toNat := by
  have small : byte.toNat < 2 ^ 8 := byte.toNat_lt
  rw [littleEndian, List.foldr_cons, ← littleEndian, ← Nat.shiftLeft_add_eq_or_of_lt small,
    Nat.shiftLeft_eq]
  ring

theorem littleEndian_lt (data : Buffer) : littleEndian data < 256 ^ data.length := by
  induction data with
  | nil => simp [littleEndian]
  | cons byte data induction =>
      have small : byte.toNat < 256 := byte.toNat_lt
      rw [littleEndian_cons, List.length_cons, pow_succ]
      omega

theorem littleEndian_fieldToBytesLoop {turns rest : ℕ} (fits : rest < 256 ^ turns) :
    littleEndian (fieldToBytesLoop turns rest) = rest := by
  induction turns generalizing rest with
  | zero =>
      have zero : rest = 0 := by simpa using fits
      simp [fieldToBytesLoop, littleEndian, zero]
  | succ turns induction =>
      have shifted : rest >>> 8 < 256 ^ turns := by
        rw [Nat.shiftRight_eq_div_pow]
        rw [pow_succ] at fits
        omega
      have low : (UInt8.ofNat (rest &&& 255)).toNat = rest % 256 := by
        rw [show (255 : ℕ) = 2 ^ 8 - 1 by norm_num, Nat.and_two_pow_sub_one_eq_mod,
          UInt8.toNat_ofNat']
        omega
      rw [fieldToBytesLoop, littleEndian_cons, induction shifted, low,
        Nat.shiftRight_eq_div_pow]
      omega

theorem bytesToField_fieldToBytes {value : ℕ} (fits : value < 2 ^ 192) :
    bytesToField (fieldToBytes value) = .returns value := by
  have room : value < 256 ^ keyBytes := fits.trans_eq (by norm_num [keyBytes])
  rw [bytesToField, if_neg (by simp), fieldToBytes, littleEndian_fieldToBytesLoop room]

theorem bytesToField_of_length {data : Buffer} (length : data.length = keyBytes) :
    bytesToField data = .returns (littleEndian data) := by
  rw [bytesToField, if_neg (not_not.mpr length)]

/-- Every 48 bytes decode to a pair of coordinates of at most 192 bits. -/
theorem bytesToPubkey_of_length {data : Buffer} (length : data.length = pubkeyBytes) :
    bytesToPubkey data =
      .returns (.affine (littleEndian (data.take keyBytes))
        (littleEndian (data.drop keyBytes))) := by
  have left : (data.take keyBytes).length = keyBytes := by
    rw [List.length_take, length]
    rfl
  have right : (data.drop keyBytes).length = keyBytes := by
    rw [List.length_drop, length]
    rfl
  rw [bytesToPubkey, if_neg (not_not.mpr length), bytesToField_of_length left,
    bytesToField_of_length right]
  rfl

theorem bytesToPubkey_pubkeyToBytes {x y : ℕ} (xFits : x < 2 ^ 192) (yFits : y < 2 ^ 192) :
    bytesToPubkey (pubkeyToBytes x y) = .returns (.affine x y) := by
  have length : (pubkeyToBytes x y).length = pubkeyBytes := by
    simp [pubkeyToBytes, keyBytes, pubkeyBytes]
  have left : (pubkeyToBytes x y).take keyBytes = fieldToBytes x :=
    List.take_left' (length_fieldToBytes x)
  have right : (pubkeyToBytes x y).drop keyBytes = fieldToBytes y :=
    List.drop_left' (length_fieldToBytes x)
  rw [bytesToPubkey, if_neg (not_not.mpr length), left, right, bytesToField_fieldToBytes xFits,
    bytesToField_fieldToBytes yFits]
  rfl

/-! ## Multiples of a point of the subgroup -/

section

variable {width fuel k : ℕ}

theorem mod_nsmul {P : CurveGroup} (member : P ∈ primeSubgroup) (k : ℕ) :
    (k % curveOrder) • P = k • P := by
  conv_rhs => rw [← Nat.div_add_mod k curveOrder, add_nsmul, mul_nsmul,
    mem_primeSubgroup_iff.mp member, nsmul_zero, zero_add]

/-- A scalar that is not zero modulo the order gives a point that is not infinity. -/
theorem scalarMultiply_returns {x y : ℕ} {P : CurveGroup}
    (represents : Represents (.affine x y) P) (below : Below width (.affine x y))
    (wide : 163 ≤ width) (enough : width + 164 ≤ fuel) (member : P ∈ primeSubgroup)
    (scalar : k % curveOrder ≠ 0) :
    ∃ x' y', scalarMultiply fuel k (.affine x y) = .returns (.affine x' y') ∧
      Below width (.affine x' y') ∧ Represents (.affine x' y') (k • P) := by
  have small : k % curveOrder < curveOrder := Nat.mod_lt _ curveOrder_prime.pos
  have alive : ∀ j, 0 < j → j ≤ k % curveOrder → j • P ≠ 0 := by
    intro j positive bound
    apply nsmul_ne_zero_of_mem member represents.ne_zero
    exact Nat.not_dvd_of_pos_of_lt positive (bound.trans_lt small)
  obtain ⟨product, returned, product_below, product_represents⟩ :=
    multiply_returns represents below wide enough (Or.inr alive)
  cases product with
  | infinity => exact absurd product_represents (alive _ (Nat.pos_of_ne_zero scalar) le_rfl)
  | affine x' y' =>
      refine ⟨x', y', ?_, product_below, by rwa [mod_nsmul member] at product_represents⟩
      have twice : (k % curveOrder + curveOrder) % curveOrder = k % curveOrder := by
        rw [Nat.add_mod_right, Nat.mod_mod]
      rw [scalarMultiply, twice, if_neg scalar]
      exact returned

end

/-! ## The calls of the handshake -/

/-- The public key of a private one is the reduced multiple of the generator. -/
theorem publicKeyFromPrivate_returns {priv : Buffer} (length : priv.length = keyBytes)
    (scalar : littleEndian priv % curveOrder ≠ 0) :
    ∃ x y, Below 163 (.affine x y) ∧
      Represents (.affine x y) (littleEndian priv • generatorPoint) ∧
      ∀ fuel, 327 ≤ fuel → publicKeyFromPrivate priv fuel = .returns (pubkeyToBytes x y) := by
  have below : Below 163 (.affine genX genY) := ⟨by decide, by decide⟩
  have member : generatorPoint ∈ primeSubgroup := AddSubgroup.mem_zmultiples generatorPoint
  obtain ⟨x, y, -, xy_below, represents⟩ := scalarMultiply_returns generator_represents below
    le_rfl le_rfl member scalar
  refine ⟨x, y, xy_below, represents, fun fuel enough => ?_⟩
  obtain ⟨x', y', returned, below', represents'⟩ := scalarMultiply_returns generator_represents
    below le_rfl enough member scalar
  obtain ⟨rfl, rfl⟩ := Point.affine.inj (represents.unique represents' xy_below below')
  rw [publicKeyFromPrivate, bytesToField_of_length length, returns_bind, generator, returned,
    returns_bind]
  exact pure_eq _

section

variable {priv peer : Buffer} {x y : ℕ}

/-- A point that is not on the curve is refused before any multiplication. -/
theorem sharedSecret_off_curve (decoded : bytesToPubkey peer = .returns (.affine x y))
    (off : isOnCurve (.affine x y) curveA = false) (fuel : ℕ) :
    sharedSecret priv peer fuel = .throws "The peer sent a point that is not on the curve" := by
  rw [sharedSecret, decoded, returns_bind]
  simp only [off, Bool.false_eq_true, not_false_eq_true, if_true]

/-- What `sharedSecret` does after its test of the curve equation. -/
theorem sharedSecret_on_curve (decoded : bytesToPubkey peer = .returns (.affine x y))
    (on : isOnCurve (.affine x y) curveA = true) (length : priv.length = keyBytes) (fuel : ℕ) :
    sharedSecret priv peer fuel =
      multiply fuel curveOrder (.affine x y) >>= fun
        | .affine _ _ => .throws "The peer sent a point outside the prime-order subgroup"
        | .infinity => scalarMultiply fuel (littleEndian priv) (.affine x y) >>= fun
            | .infinity => .throws "The shared secret is the point at infinity"
            | .affine sharedX _ => .returns (fieldToBytes sharedX) := by
  rw [sharedSecret, decoded, returns_bind]
  simp only [on, not_true_eq_false, if_false, isInPrimeSubgroup, bind_assoc,
    bytesToField_of_length length, returns_bind]
  -- both calls are hidden before any case split: unfolding either would run its loop
  generalize multiply fuel curveOrder (.affine x y) = call
  generalize scalarMultiply fuel (littleEndian priv) (.affine x y) = shared
  cases call with
  | throws error => rfl
  | running => rfl
  | returns product =>
      cases product with
      | affine _ _ => rfl
      | infinity =>
          cases shared with
          | throws error => rfl
          | running => rfl
          | returns result => cases result <;> rfl

/-- The secret with a peer whose point is reduced and in the subgroup. -/
theorem sharedSecret_returns {P : CurveGroup} (length : priv.length = keyBytes)
    (scalar : littleEndian priv % curveOrder ≠ 0)
    (decoded : bytesToPubkey peer = .returns (.affine x y)) (reduced : Below 163 (.affine x y))
    (represents : Represents (.affine x y) P) (member : P ∈ primeSubgroup) :
    ∃ x' y', Below 163 (.affine x' y') ∧ Represents (.affine x' y') (littleEndian priv • P) ∧
      ∀ fuel, 327 ≤ fuel → sharedSecret priv peer fuel = .returns (fieldToBytes x') := by
  obtain ⟨x', y', -, below', represents'⟩ :=
    scalarMultiply_returns represents reduced le_rfl le_rfl member scalar
  refine ⟨x', y', below', represents', fun fuel enough => ?_⟩
  obtain ⟨product, killed, -, product_represents⟩ :=
    multiply_returns (k := curveOrder) represents reduced le_rfl enough (Or.inl rfl)
  rw [mem_primeSubgroup_iff.mp member] at product_represents
  obtain rfl := product_represents.eq_infinity
  obtain ⟨x'', y'', returned, below'', represents''⟩ :=
    scalarMultiply_returns represents reduced le_rfl enough member scalar
  obtain ⟨rfl, rfl⟩ := Point.affine.inj (represents'.unique represents'' below' below'')
  obtain ⟨on, -⟩ := represents
  rw [sharedSecret_on_curve decoded (isOnCurve_iff.mpr on) length, killed, returns_bind, returned,
    returns_bind]

end

/-- Both sides of a handshake compute one secret from their own key and the other's public one. -/
theorem sharedSecret_agrees (a b : Buffer) (aLength : a.length = keyBytes)
    (bLength : b.length = keyBytes) (aScalar : littleEndian a % curveOrder ≠ 0)
    (bScalar : littleEndian b % curveOrder ≠ 0) :
    ∃ aPub bPub secret, Yields (publicKeyFromPrivate a) aPub ∧
      Yields (publicKeyFromPrivate b) bPub ∧ Yields (sharedSecret a bPub) secret ∧
      Yields (sharedSecret b aPub) secret := by
  obtain ⟨ax, ay, aBelow, aRepresents, aPublic⟩ := publicKeyFromPrivate_returns aLength aScalar
  obtain ⟨bx, by_, bBelow, bRepresents, bPublic⟩ := publicKeyFromPrivate_returns bLength bScalar
  have wider : ∀ {value : ℕ}, value < 2 ^ 163 → value < 2 ^ 192 :=
    fun reduced => reduced.trans (by norm_num)
  have member : ∀ k : ℕ, k • generatorPoint ∈ primeSubgroup :=
    fun k => AddSubgroup.nsmul_mem _ (AddSubgroup.mem_zmultiples generatorPoint) k
  obtain ⟨x, y, below, represents, aShared⟩ := sharedSecret_returns aLength aScalar
    (bytesToPubkey_pubkeyToBytes (wider bBelow.1) (wider bBelow.2)) bBelow bRepresents (member _)
  obtain ⟨x', y', below', represents', bShared⟩ := sharedSecret_returns bLength bScalar
    (bytesToPubkey_pubkeyToBytes (wider aBelow.1) (wider aBelow.2)) aBelow aRepresents (member _)
  rw [nsmul_left_comm] at represents'
  obtain ⟨rfl, rfl⟩ := Point.affine.inj (represents.unique represents' below below')
  exact ⟨_, _, _, ⟨327, aPublic⟩, ⟨327, bPublic⟩, ⟨327, aShared⟩, ⟨327, bShared⟩⟩

theorem littleEndian_one : littleEndian (1 :: List.replicate 23 0) % curveOrder ≠ 0 := by decide

theorem littleEndian_two : littleEndian (2 :: List.replicate 23 0) % curveOrder ≠ 0 := by decide

theorem sharedSecret_agrees_one_two :
    ∃ aPub bPub secret,
      Yields (publicKeyFromPrivate (1 :: List.replicate 23 0)) aPub ∧
      Yields (publicKeyFromPrivate (2 :: List.replicate 23 0)) bPub ∧
      Yields (sharedSecret (1 :: List.replicate 23 0) bPub) secret ∧
      Yields (sharedSecret (2 :: List.replicate 23 0) aPub) secret :=
  sharedSecret_agrees _ _ rfl rfl littleEndian_one littleEndian_two

/-! ## Validation of the peer's key -/

/-- The first coordinate of 48 bytes from the wire. -/
def peerX (peer : Buffer) : ℕ := littleEndian (peer.take keyBytes)

/-- The second coordinate of 48 bytes from the wire. -/
def peerY (peer : Buffer) : ℕ := littleEndian (peer.drop keyBytes)

theorem peer_below {peer : Buffer} (length : peer.length = pubkeyBytes) :
    Below 192 (.affine (peerX peer) (peerY peer)) := by
  have left := littleEndian_lt (peer.take keyBytes)
  have right := littleEndian_lt (peer.drop keyBytes)
  rw [List.length_take, length] at left
  rw [List.length_drop, length] at right
  exact ⟨left.trans_eq (by norm_num [keyBytes, pubkeyBytes]),
    right.trans_eq (by norm_num [keyBytes, pubkeyBytes])⟩

/-- What a peer key has to be: two field elements that are a point of the subgroup. -/
structure ValidPeer (peer : Buffer) : Prop where
  /-- Both coordinates are reduced. -/
  reduced : Below 163 (.affine (peerX peer) (peerY peer))
  /-- They are a point of the curve in the prime-order subgroup, and not infinity. -/
  member : ∃ P, Represents (.affine (peerX peer) (peerY peer)) P ∧ P ∈ primeSubgroup ∧ P ≠ 0

/-- The validation is total and exact: a valid peer gives a secret, every other one an error. -/
def ValidatesPeer (priv peer : Buffer) : Prop :=
  (ValidPeer peer → ∃ secret, Yields (sharedSecret priv peer) secret) ∧
    (¬ ValidPeer peer → ∃ error, Fails (sharedSecret priv peer) error)

/-- The peer keys on which the missing test for reduced coordinates does no harm. -/
def Tellable (peer : Buffer) : Prop :=
  Below 163 (.affine (peerX peer) (peerY peer)) ∨
    isOnCurve (.affine (peerX peer) (peerY peer)) curveA = false ∨
      (∃ P, Represents (.affine (peerX peer) (peerY peer)) P ∧ P ∉ primeSubgroup) ∧
        (peerX peer = 0 ∨ gfMod (peerX peer) ≠ 0)

theorem gfMod_eq_zero_iff {value : ℕ} : gfMod value = 0 ↔ toField value = 0 := by
  rw [← toField_zero, ← gfMod_eq_iff, gfMod_eq_self (by norm_num : 0 < 2 ^ 163)]

theorem Represents.eq {point : Point} {P Q : CurveGroup} (represents : Represents point P)
    (represents' : Represents point Q) : P = Q := by
  cases point with
  | infinity => exact Eq.trans represents (Eq.symm represents')
  | affine x y =>
      obtain ⟨on, rfl⟩ := represents
      obtain ⟨on', rfl⟩ := represents'
      rfl

theorem isOnCurve_eq_true {x y : ℕ} {P : CurveGroup} (represents : Represents (.affine x y) P) :
    isOnCurve (.affine x y) curveA = true :=
  isOnCurve_iff.mpr represents.choose

section

variable {priv peer : Buffer} {x y fuel : ℕ} {P : CurveGroup}

/-- A point of the curve outside the subgroup is refused, when doubling it ends. -/
theorem sharedSecret_outside (length : priv.length = keyBytes)
    (decoded : bytesToPubkey peer = .returns (.affine x y)) (below : Below 192 (.affine x y))
    (represents : Represents (.affine x y) P) (outside : P ∉ primeSubgroup)
    (safe : x = 0 ∨ toField x ≠ 0) (enough : 356 ≤ fuel) :
    sharedSecret priv peer fuel =
      .throws "The peer sent a point outside the prime-order subgroup" := by
  have product : ∃ x' y', multiply fuel curveOrder (.affine x y) = .returns (.affine x' y') := by
    by_cases zero : toField x = 0
    · obtain rfl := safe.resolve_right (not_not.mpr zero)
      refine ⟨0, y, ?_⟩
      have low : curveOrder.testBit 0 = true := by
        rw [Nat.testBit_zero, decide_eq_true_iff]
        exact Nat.odd_iff.mp curveOrder_odd
      rw [multiply_of_x_eq_zero, if_pos low]
    · have moved : 2 • P ≠ 0 := by
        obtain ⟨on, rfl⟩ := represents
        obtain ⟨on', double_eq⟩ := Library.BinaryCurve.two_nsmul_of_x_ne_zero on zero rfl rfl rfl
        rw [double_eq]
        exact WeierstrassCurve.Affine.Point.some_ne_zero on'
      have alive : ∀ j, 0 < j → j ≤ curveOrder → j • P ≠ 0 := by
        intro j positive small
        apply nsmul_ne_zero_of_not_mem outside moved
        apply Nat.not_dvd_of_pos_of_lt positive
        have order_pos := curveOrder_prime.pos
        omega
      obtain ⟨product, returned, -, product_represents⟩ :=
        multiply_returns represents below (by norm_num) enough (Or.inr alive)
      cases product with
      | infinity => exact absurd product_represents (alive _ curveOrder_prime.pos le_rfl)
      | affine x' y' => exact ⟨x', y', returned⟩
  obtain ⟨x', y', returned⟩ := product
  rw [sharedSecret_on_curve decoded (isOnCurve_eq_true represents) length, returned, returns_bind]

/-- A point of the subgroup is never refused, whether or not its coordinates are reduced. -/
theorem sharedSecret_inside (length : priv.length = keyBytes)
    (scalar : littleEndian priv % curveOrder ≠ 0)
    (decoded : bytesToPubkey peer = .returns (.affine x y)) (below : Below 192 (.affine x y))
    (represents : Represents (.affine x y) P) (member : P ∈ primeSubgroup)
    (enough : 356 ≤ fuel) (error : String) : sharedSecret priv peer fuel ≠ .throws error := by
  have alive : ∀ j, 0 < j → j < curveOrder → j • P ≠ 0 := fun j positive small =>
    nsmul_ne_zero_of_mem member represents.ne_zero (Nat.not_dvd_of_pos_of_lt positive small)
  rw [sharedSecret_on_curve decoded (isOnCurve_eq_true represents) length]
  rcases multiply_order represents below (by norm_num) enough (Nat.odd_iff.mp curveOrder_odd)
    three_le_curveOrder (mem_primeSubgroup_iff.mp member) alive with returned | running
  · obtain ⟨x', y', shared, -, -⟩ :=
      scalarMultiply_returns represents below (by norm_num) enough member scalar
    rw [returned, returns_bind, shared, returns_bind]
    nofun
  · rw [running, running_bind]
    nofun

/-- A nonzero multiple of the field polynomial as abscissa blocks the handshake. -/
theorem sharedSecret_running (length : priv.length = keyBytes)
    (decoded : bytesToPubkey peer = .returns (.affine x y))
    (on : isOnCurve (.affine x y) curveA = true) (x_ne : x ≠ 0) (zero : toField x = 0) :
    Diverges (sharedSecret priv peer) := by
  intro fuel
  rw [sharedSecret_on_curve decoded on length,
    multiply_running fuel x_ne zero (Nat.le_of_succ_le three_le_curveOrder), running_bind]

end

/-- The validation of the peer's key is total and exact on the tellable keys and on no others. -/
theorem validatesPeer_iff (priv peer : Buffer) (length : priv.length = keyBytes)
    (scalar : littleEndian priv % curveOrder ≠ 0) (peerLength : peer.length = pubkeyBytes) :
    ValidatesPeer priv peer ↔ Tellable peer := by
  have decoded := bytesToPubkey_of_length peerLength
  have below := peer_below peerLength
  constructor
  · intro validates
    by_contra stuck
    simp only [Tellable, not_or, Bool.not_eq_false, not_and_or, not_exists, not_not] at stuck
    obtain ⟨unreduced, on, known⟩ := stuck
    obtain ⟨error, enough, threw⟩ := validates.2 fun valid => unreduced valid.reduced
    have represents : Represents (.affine (peerX peer) (peerY peer)) (.some _ _ _) :=
      ⟨isOnCurve_iff.mp on, rfl⟩
    have threw' := threw (max enough 356) (le_max_left ..)
    rcases known with inside | ⟨x_ne, zero⟩
    · have member := (inside _).resolve_left (not_not.mpr represents)
      exact sharedSecret_inside length scalar decoded below represents member (le_max_right ..) error
        threw'
    · have diverges := sharedSecret_running length decoded on x_ne (gfMod_eq_zero_iff.mp zero)
      exact diverges.not_fails ⟨enough, threw⟩
  · intro tellable
    have refused : ∀ {P}, Represents (.affine (peerX peer) (peerY peer)) P → P ∉ primeSubgroup →
        (peerX peer = 0 ∨ toField (peerX peer) ≠ 0) → ValidatesPeer priv peer := by
      intro P represents outside safe
      refine ⟨fun valid => ?_, fun _ => ⟨_, 356, fun fuel enough =>
        sharedSecret_outside length decoded below represents outside safe enough⟩⟩
      obtain ⟨Q, represents', member, -⟩ := valid.member
      exact absurd (represents.eq represents' ▸ member) outside
    have off : isOnCurve (.affine (peerX peer) (peerY peer)) curveA = false →
        ValidatesPeer priv peer := by
      intro off
      refine ⟨fun valid => ?_, fun _ => ⟨_, 0, fun fuel _ => sharedSecret_off_curve decoded off fuel⟩⟩
      obtain ⟨P, represents, -, -⟩ := valid.member
      rw [isOnCurve_eq_true represents] at off
      cases off
    rcases tellable with reduced | offCurve | ⟨⟨P, represents, outside⟩, safe⟩
    · by_cases on : isOnCurve (.affine (peerX peer) (peerY peer)) curveA = true
      · have represents : Represents (.affine (peerX peer) (peerY peer)) (.some _ _ _) :=
          ⟨isOnCurve_iff.mp on, rfl⟩
        by_cases member : WeierstrassCurve.Affine.Point.some _ _ (isOnCurve_iff.mp on) ∈
            primeSubgroup
        · obtain ⟨x', -, -, -, shared⟩ :=
            sharedSecret_returns length scalar decoded reduced represents member
          exact ⟨fun _ => ⟨_, 327, shared⟩,
            fun invalid => absurd ⟨reduced, _, represents, member, represents.ne_zero⟩ invalid⟩
        · exact refused represents member (Safe.of_reduced reduced)
      · exact off (Bool.eq_false_of_not_eq_true on)
    · exact off offCurve
    · exact refused represents outside (safe.imp_right (mt gfMod_eq_zero_iff.mpr))

theorem validatesPeer_iff_generator :
    ValidatesPeer (1 :: List.replicate 23 0) (pubkeyToBytes genX genY) ↔
      Tellable (pubkeyToBytes genX genY) :=
  validatesPeer_iff _ _ rfl littleEndian_one (by decide +kernel)

/-- The field polynomial as abscissa, the square root of b as ordinate. -/
def stuckPeer : Buffer :=
  pubkeyToBytes fieldPoly 0x02c25b85badf8927593d21c366da89c03969f34da5

/-- On this peer key, which satisfies the curve equation, the shared secret never comes. -/
theorem not_validatesPeer_stuckPeer :
    (1 :: List.replicate 23 0 : Buffer).length = keyBytes ∧
      littleEndian (1 :: List.replicate 23 0) % curveOrder ≠ 0 ∧
      stuckPeer.length = pubkeyBytes ∧
      Diverges (sharedSecret (1 :: List.replicate 23 0) stuckPeer) ∧
      ¬ ValidatesPeer (1 :: List.replicate 23 0) stuckPeer := by
  have decoded : bytesToPubkey stuckPeer =
      .returns (.affine fieldPoly 0x02c25b85badf8927593d21c366da89c03969f34da5) :=
    bytesToPubkey_pubkeyToBytes (by decide) (by norm_num)
  have stuck : Diverges (sharedSecret (1 :: List.replicate 23 0) stuckPeer) :=
    sharedSecret_running rfl decoded (by decide +kernel) fieldPoly_ne_zero toField_fieldPoly
  refine ⟨rfl, littleEndian_one, by decide +kernel, stuck, fun validates => ?_⟩
  have unreduced : ¬ ValidPeer stuckPeer := by
    intro valid
    exact absurd valid.reduced.1 (by decide +kernel)
  obtain ⟨error, fails⟩ := validates.2 unreduced
  exact stuck.not_fails fails

end Ecc
end Port
end AqaraLanLink
