import Rs256Cose.Signature

/-!
# Signed messages

A `Message` has a payload, a signature and the signer's key, which may be empty and has at most
312 bytes. The protected header is the same for every message, so it is no field. The limit is
part of the key's type; `EmbeddedKey.ofSupplied` and `Message.ofSupplied` check values supplied
by a caller.
-/

namespace Rs256Cose

open Profile

/-- The signer's SubjectPublicKeyInfo in the unprotected header; empty when there is none. -/
structure EmbeddedKey where
  der : Bytes
  length_le : der.length ≤ maxKeyLength
  deriving DecidableEq

namespace EmbeddedKey

def empty : EmbeddedKey := ⟨[], by decide⟩

def ofBytes (der : Bytes) : Except EncodeError EmbeddedKey :=
  if h : der.length ≤ maxKeyLength then .ok ⟨der, h⟩ else .error (.keyTooLong der.length)

/-- The key supplied for a header; no value is the empty key. -/
def ofSupplied : Supplied → Except EncodeError EmbeddedKey
  | .absent => .ok empty
  | v => (v.toBytes "signer public key DER").bind ofBytes

end EmbeddedKey

structure Message where
  payload : Bytes
  signature : Signature
  key : EmbeddedKey
  deriving DecidableEq

/-- The message made of supplied values: first the protected header must be that of the profile,
then the signature must fit, then the payload. -/
def Message.ofSupplied (payload signature : Supplied) (key : EmbeddedKey)
    (header : Supplied) : Except EncodeError Message := do
  let header ← header.toBytes "protected header"
  if header ≠ protectedHeader then throw .foreignProtectedHeader
  let signature ← Signature.ofSupplied signature
  let payload ← payload.toBytes "payload"
  return ⟨payload, signature, key⟩

end Rs256Cose
