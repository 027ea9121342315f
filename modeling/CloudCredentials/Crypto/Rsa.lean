import CloudCredentials.Crypto.Sha256
import CloudCredentials.Encoding.Der

/-!
# RSA signatures

Private keys in the two-prime form, and signatures of SHA-256 hashes with the padding of PKCS #1
version 1.5. A key is checked before it is used: the primes have to multiply to the modulus and the
exponents have to be inverse to each other.
-/

namespace CloudCredentials.Crypto

open CloudCredentials.Encoding

/-- A private key. -/
structure RsaPrivateKey where
  modulus : Nat
  publicExponent : Nat
  privateExponent : Nat
  prime1 : Nat
  prime2 : Nat

/-- `powerModulo base exponent modulus` is `base ^ exponent % modulus`, by repeated squaring. -/
def powerModulo (base exponent modulus : Nat) : Nat :=
  if h : exponent = 0 then 1 % modulus
  else
    let half := powerModulo (base * base % modulus) (exponent / 2) modulus
    if exponent % 2 = 1 then base * half % modulus else half
termination_by exponent
decreasing_by omega

namespace RsaPrivateKey

/-- The greatest modulus has this many bits. -/
def greatestModulusBits : Nat := 4096

/-- The number of bytes of the modulus. -/
def size (key : RsaPrivateKey) : Nat :=
  (key.modulus.log2 + 8) / 8

/-- The exponents undo each other modulo a prime. -/
def exponentsMatch (key : RsaPrivateKey) (prime : Nat) : Bool :=
  1 < prime && key.publicExponent * key.privateExponent % (prime - 1) == 1

/-- The parts of the key fit together. -/
def isValid (key : RsaPrivateKey) : Bool :=
  key.modulus < Nat.pow 2 greatestModulusBits && key.modulus % 2 == 1 &&
    key.publicExponent < key.modulus && key.publicExponent % 2 == 1 &&
    2 ≤ key.publicExponent && key.publicExponent < Nat.pow 2 33 &&
    key.prime1 * key.prime2 == key.modulus &&
    key.exponentsMatch key.prime1 && key.exponentsMatch key.prime2

/-- The key in the DER form of PKCS #1. The numbers after the primes are there to speed up other
programs. -/
def ofDer (bytes : Bytes) : Option RsaPrivateKey :=
  match Der.integers? bytes with
  | some [0, modulus, publicExponent, privateExponent, prime1, prime2, _, _, _] =>
      let key : RsaPrivateKey := ⟨modulus, publicExponent, privateExponent, prime1, prime2⟩
      if key.isValid then some key else none
  | _ => none

end RsaPrivateKey

/-- What stands in front of the hash in a signed block: the identifier of SHA-256 in DER. -/
def sha256Label : Bytes := [
  0x30, 0x31, 0x30, 0x0d, 0x06, 0x09, 0x60, 0x86, 0x48, 0x01, 0x65, 0x03, 0x04, 0x02, 0x01, 0x05,
  0x00, 0x04, 0x20]

/-- The block that is signed: the label and the hash, filled up at the front to the size of the
modulus. There is none if the modulus is too short for eight bytes of filling. -/
def signatureBlock (size : Nat) (message : Bytes) : Option Bytes :=
  let ending := sha256Label ++ Sha256.hash message
  if size < ending.length + 11 then none
  else some (0x00 :: 0x01 :: List.replicate (size - ending.length - 3) 0xFF ++ 0x00 :: ending)

/-- The signature of a message. -/
def RsaPrivateKey.sign (key : RsaPrivateKey) (message : Bytes) : Option Bytes :=
  (signatureBlock key.size message).map fun block =>
    Sha256.bigEndianBytes key.size
      (powerModulo (Der.bigEndian block) key.privateExponent key.modulus)

/-- A key signs every message or none: its modulus has to hold the label, the hash and the
filling. -/
theorem RsaPrivateKey.sign_isSome_iff (key : RsaPrivateKey) (message : Bytes) :
    (key.sign message).isSome = true ↔ 62 ≤ key.size := by
  have hlength : (sha256Label ++ Sha256.hash message).length = 51 := by
    rw [List.length_append, Sha256.length_hash]
    rfl
  rw [RsaPrivateKey.sign, Option.isSome_map, signatureBlock]
  simp only [hlength]
  split
  · next hshort =>
      simp only [Option.isSome_none, Bool.false_eq_true, false_iff]
      omega
  · next hlong =>
      simp only [Option.isSome_some, true_iff]
      omega

end CloudCredentials.Crypto
