import Rs256Cose.Rsa.Key
import Rs256Cose.Sha256
import Rs256Cose.Signature

/-!
# RS256 signatures

RSASSA-PKCS1-v1_5 with SHA-256 (RFC 8017, section 8.2): the signature is the private power of one
block that holds the digest, and it verifies if its public power is that whole block.
-/

namespace Rs256Cose.Rsa

open Profile

/-- The DER of a DigestInfo for SHA-256 up to the digest itself. -/
def digestInfo : Bytes :=
  [0x30, 0x31, 0x30, 0x0d, 0x06, 0x09, 0x60, 0x86, 0x48, 0x01, 0x65, 0x03, 0x04, 0x02, 0x01,
    0x05, 0x00, 0x04, 0x20]

/-- The block that is signed for a digest: `00 01 ff … ff 00`, then the DigestInfo. -/
def block (digest : Digest) : Bytes :=
  0x00 :: 0x01 :: List.replicate (signatureLength - 3 - (digestInfo.length + 32)) 0xff ++
    0x00 :: digestInfo ++ digest.bytes

theorem length_block (digest : Digest) : (block digest).length = signatureLength := by
  simp only [block, List.length_append, List.length_cons, List.length_replicate, digest.length_eq,
    show digestInfo.length = 19 from rfl, show signatureLength = 256 from rfl]

def PrivateKey.sign (key : PrivateKey) (digest : Digest) : Signature :=
  ⟨Bytes.ofNat signatureLength
      (powMod (block digest).toNat key.privateExponent key.modulus), by simp⟩

/-- What was given to be signed has this length, which is not that of a digest. -/
structure DigestLengthError where
  length : Nat
  deriving DecidableEq, Repr

def DigestLengthError.message (e : DigestLengthError) : String :=
  s!"expected a 32-byte SHA-256 digest, got {e.length} bytes"

/-- The signature of a digest given as bytes. -/
def PrivateKey.signBytes (key : PrivateKey) (digest : Bytes) :
    Except DigestLengthError Signature :=
  match Digest.ofBytes? digest with
  | some digest => .ok (key.sign digest)
  | none => .error ⟨digest.length⟩

/-- Whether a byte string is the signature of a digest under a key. -/
def PublicKey.verifies (key : PublicKey) (digest : Digest) (signature : Bytes) : Bool :=
  signature.length = signatureLength && signature.toNat < key.modulus &&
    Bytes.ofNat signatureLength (powMod signature.toNat key.exponent key.modulus) = block digest

end Rs256Cose.Rsa
