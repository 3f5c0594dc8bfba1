import Rs256Cose.Asn1.ObjectIdentifier
import Rs256Cose.Keys.Error
import Rs256Cose.Rsa.Pkcs1

/-!
# The key library

Plain RSA keys are read here. For keys of other algorithms, for the numbers that make a key, and for
the keys under which signatures are checked, a library decides, and its releases decide in different
ways: they know other algorithms and curves, and some refuse numbers that others take. So all of
this is a `KeyLibrary`, and what is said of keys is said for each one. Its laws are what they all
have in common: a proper key of the size in use is a key.
-/

namespace Rs256Cose.Keys

open Asn1 Rsa

/-- A key that was read: an RSA key, or one of another algorithm that is known but not used. -/
inductive Found (α : Type) where
  | rsa (key : α)
  | foreign
  deriving DecidableEq, Repr

/-- Why data are no key. -/
inductive Unreadable where
  | malformed
  /-- A key that may be well formed, of a kind that the library does not support. -/
  | unsupported (description : String)
  deriving DecidableEq, Repr

class KeyLibrary where
  /-- Whether the two numbers of an RSAPublicKey are a key. -/
  admits : PublicKey → Bool
  /-- Whether the numbers of an RSAPrivateKey that fit together are a key. -/
  admitsPrivate : PrivateKey → Bool
  /-- Whether any signature verifies under a key. -/
  checks : PublicKey → Bool
  /-- The key in a SubjectPublicKeyInfo of another algorithm than `rsaEncryption`, from the
  algorithm, its parameters, the number of unused bits and the bytes. -/
  publicKey : ObjectIdentifier → Bytes → Nat → Bytes → Except Unreadable (Found PublicKey)
  /-- The key in a PrivateKeyInfo of another algorithm than `rsaEncryption`, from the algorithm, its
  parameters and the bytes. -/
  privateKey : ObjectIdentifier → Bytes → Bytes → Except Unreadable (Found PrivateKey)
  /-- The key in a PEM block whose label names another algorithm. -/
  labelledKey : Bytes → Bytes → Except Unreadable (Found PrivateKey)
  admits_of_isProper : ∀ key : PublicKey, key.IsProper → key.size = requiredBits →
    admits key = true
  admitsPrivate_of_isProper : ∀ key : PrivateKey, key.toPublicKey.IsProper →
    key.toPublicKey.size = requiredBits → key.privateExponent < key.modulus →
    key.HasPrimeFactors → admitsPrivate key = true
  checks_of_isProper : ∀ key : PublicKey, key.IsProper → key.size = requiredBits →
    key.modulus % 2 = 1 → checks key = true

/-- Whether a byte string is the signature of a digest under a key, as the library finds. -/
def KeyLibrary.verifies [KeyLibrary] (key : PublicKey) (digest : Digest) (signature : Bytes) :
    Bool :=
  checks key && key.verifies digest signature

end Rs256Cose.Keys
