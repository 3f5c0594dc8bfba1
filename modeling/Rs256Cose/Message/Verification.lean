import Rs256Cose.Keys.Public
import Rs256Cose.Message.Draft

/-!
# Verification of messages

`verify` decodes a message, decides on the key to trust and checks the signature over the bytes
that the message's own draft would have signed. A trusted key given by the caller pins the signer;
without one the embedded key is used, which shows integrity but not origin.
-/

namespace Rs256Cose

open Keys

/-- Why a well-formed message is not accepted. -/
inductive Rejection where
  | otherKey
  | noKey
  | badSignature
  deriving DecidableEq, Repr

def Rejection.message : Rejection → String
  | .otherKey => "embedded signer key does not match the trusted key"
  | .noKey => "no signer key embedded and none supplied"
  | .badSignature => "RS256 signature does not verify"

inductive VerifyError where
  | undecodable (error : DecodeError)
  | rejected (rejection : Rejection)
  /-- The payload is too long to have been signed. -/
  | unsignable (error : EncodeError)
  /-- The key that decides is one that the library does not support. -/
  | unsupported (description : String)
  /-- What was given as a digest is not 32 bytes long. -/
  | digestLength
  deriving DecidableEq, Repr

def VerifyError.message : VerifyError → String
  | .undecodable error => error.message
  | .rejected rejection => rejection.message
  | .unsignable error => error.message
  | .unsupported description => description
  | .digestLength =>
    "The provided data must be the same length as the hash algorithm's digest size."

/-- What a verified message says, with the key it carries itself. -/
structure Verified where
  payload : Bytes
  key : EmbeddedKey
  deriving DecidableEq

variable [KeyLibrary]

/-! ### The signature of a digest -/

/-- The usable key in a file of PEM or DER, none if the file is refused. -/
def usableKey (file : Bytes) : Except VerifyError (Option Rsa.PublicKey) :=
  match loadPublicKey file with
  | .ok key => .ok (some key)
  | .error (.refused _) => .ok none
  | .error (.unsupported description) => .error (.unsupported description)

/-- Whether a signature is that of a digest under the key in a file. A refused key verifies
nothing; only under a usable one does the length of the digest matter. -/
def verifyDigest (keyFile digest signature : Bytes) : Except VerifyError Bool :=
  (usableKey keyFile).bind fun
    | none => .ok false
    | some key => match Digest.ofBytes? digest with
      | some digest => .ok (KeyLibrary.verifies key digest signature)
      | none => .error .digestLength

/-! ### The signature of a message -/

/-- The key that decides about a message. -/
def trustedKey (embedded : EmbeddedKey) : Option Bytes → Except Rejection Bytes
  | some trusted =>
    if embedded.der ≠ [] ∧ embedded.der ≠ trusted then .error .otherKey else .ok trusted
  | none => if embedded.der = [] then .error .noKey else .ok embedded.der

def verify (data : Bytes) (trusted : Option Bytes) : Except VerifyError Verified := do
  let m ← (Message.decode data).mapError .undecodable
  let key ← (trustedKey m.key trusted).mapError .rejected
  let digest ← (Draft.ofMessage m).digest.mapError .unsignable
  if ← verifyDigest key digest.bytes m.signature.bytes then return ⟨m.payload, m.key⟩
  else throw (.rejected .badSignature)

end Rs256Cose
