import Mathlib.Data.Nat.Notation

/-!
# What the handshake rests on

AES-128-CBC and ECDH over the hub's curve as the port and the reference use them, and what a client
draws at random for one handshake.
-/

namespace AqaraLanLink

/-- The two ciphers.  A call that throws gives the error instead. -/
structure Ciphers where
  /-- The key is also the initialisation vector. -/
  aesCbcEncrypt (key plaintext : List UInt8) : Except String (List UInt8)
  aesCbcDecrypt (key ciphertext : List UInt8) : Except String (List UInt8)
  publicKeyFromPrivate (priv : List UInt8) : Except String (List UInt8)
  sharedSecret (priv peer : List UInt8) : Except String (List UInt8)
  /-- A public key is two coordinates of 24 bytes. -/
  length_publicKey : ∀ {priv ours}, publicKeyFromPrivate priv = .ok ours → ours.length = 48

/-- The random bytes of one handshake. -/
structure Secrets where
  /-- The private key, as the bytes of a field element. -/
  priv : List UInt8
  nonce : List UInt8
  challenge : List UInt8
  length_nonce : nonce.length = 16

end AqaraLanLink
