import Rs256Cose.Bytes

/-!
# The message profile

RFC 9052 leaves algorithm and header contents open. This library writes and accepts one choice:
a tagged COSE_Sign1 message whose protected header names RS256 and `application/json`, whose
unprotected header carries the signer's public key under one private label, and whose signature
is that of a 2048-bit RSA key.
-/

namespace Rs256Cose.Profile

/-- CBOR tag 18, COSE_Sign1, as the single byte that it takes. -/
def tagByte : UInt8 := 0xd2

def keyLabel : Nat := 248

/-- The signature is as wide as the modulus of the signer's key. -/
def signatureLength : Nat := 256

/-- The longest SubjectPublicKeyInfo that a header may carry, in bytes. -/
def maxKeyLength : Nat := 312

def contentType : String := "application/json"

/-- COSE algorithm number of RSASSA-PKCS1-v1_5 with SHA-256. -/
def algorithm : Int := -257

/-- The CBOR map `{1: -257, 3: "application/json"}`: algorithm and content type. -/
def protectedHeader : Bytes :=
  [0xa2, 0x01, 0x39, 0x01, 0x00, 0x03, 0x70,
    0x61, 0x70, 0x70, 0x6c, 0x69, 0x63, 0x61, 0x74, 0x69, 0x6f, 0x6e, 0x2f, 0x6a, 0x73, 0x6f, 0x6e]

/-- The ASCII text `Signature1`, which opens the bytes that are signed. -/
def signingContext : Bytes := [0x53, 0x69, 0x67, 0x6e, 0x61, 0x74, 0x75, 0x72, 0x65, 0x31]

end Rs256Cose.Profile
