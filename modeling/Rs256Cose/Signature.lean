import Rs256Cose.Supplied

/-!
# Signatures

A signature is a byte string of the one length that the profile allows.
-/

namespace Rs256Cose

structure Signature where
  bytes : Bytes
  length_eq : bytes.length = Profile.signatureLength
  deriving DecidableEq

namespace Signature

def ofBytes (bytes : Bytes) : Except EncodeError Signature :=
  if h : bytes.length = Profile.signatureLength then .ok ⟨bytes, h⟩
  else .error (.signatureLength bytes.length)

def ofSupplied (v : Supplied) : Except EncodeError Signature :=
  (v.toBytes "signature").bind ofBytes

end Signature

end Rs256Cose
