import Rs256Cose.Profile

/-!
# Why a key is refused

`KeyError` lists the causes for which a key file cannot be used or a key cannot be exported. A file
with a key that the library does not support is a case of its own (`KeyFileError`), because callers
that treat a refused key as a failed check do not treat this one so.
-/

namespace Rs256Cose.Keys

open Profile

/-- Signatures are as wide as the modulus, so this is the one size of key in use. -/
def requiredBits : Nat := 8 * signatureLength

inductive KeyError where
  | missing (path : String)
  | notPrivateKey (path : String)
  | privateNotRsa
  | otherSize (bits : Nat)
  | notPublicKey
  | publicNotRsa
  | exportTooLong (length : Nat)
  deriving DecidableEq, Repr

def KeyError.message : KeyError → String
  | .missing path => s!"signing key not found: {path}"
  | .notPrivateKey path => s!"signing key is not an unencrypted PEM private key: {path}"
  | .privateNotRsa => "signing key must be RSA"
  | .otherSize bits => s!"RSA {requiredBits} key required, got {bits}-bit key"
  | .notPublicKey => "not a PEM or DER public key"
  | .publicNotRsa => "public key must be RSA"
  | .exportTooLong length => s!"public key DER is {length} bytes, limit is {maxKeyLength}"

inductive KeyFileError where
  | refused (error : KeyError)
  /-- The library does not support the key, as it says itself. -/
  | unsupported (description : String)
  deriving DecidableEq, Repr

def KeyFileError.message : KeyFileError → String
  | .refused error => error.message
  | .unsupported description => description

end Rs256Cose.Keys
