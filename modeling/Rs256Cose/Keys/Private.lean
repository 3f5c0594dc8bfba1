import Rs256Cose.Keys.Public

/-!
# Private key files

A private key is written as the PEM of a PKCS #8 PrivateKeyInfo (RFC 5208). It is read from that or
from the bare RSAPrivateKey of RFC 8017. Keys of other algorithms are told from unreadable ones by
the library.
-/

namespace Rs256Cose.Keys

open Asn1 Rsa Text

/-! ### Writing -/

/-- The RSAPrivateKey: version 0 and the eight numbers. -/
def encodeRsaPrivateKey (key : PrivateKey) : Bytes :=
  Der.sequence ([0, key.modulus, key.exponent, key.privateExponent, key.prime1, key.prime2,
    key.exponent1, key.exponent2, key.coefficient].map Der.unsigned)

/-- The PrivateKeyInfo: version 0, algorithm, key. -/
def encodePrivateInfo (key : PrivateKey) : Bytes :=
  Der.sequence [Der.unsigned 0, rsaAlgorithm, Der.octetString (encodeRsaPrivateKey key)]

def privateLabel : Bytes := Bytes.ofText "PRIVATE KEY"

def rsaPrivateLabel : Bytes := Bytes.ofText "RSA PRIVATE KEY"

def curvePrivateLabel : Bytes := Bytes.ofText "EC PRIVATE KEY"

def dsaPrivateLabel : Bytes := Bytes.ofText "DSA PRIVATE KEY"

def encryptedLabel : Bytes := Bytes.ofText "ENCRYPTED PRIVATE KEY"

def encodePrivatePem (key : PrivateKey) : Bytes := Pem.encode ⟨privateLabel, encodePrivateInfo key⟩

/-! ### Reading -/

/-- The numbers of an RSAPrivateKey, if they fit together. -/
def rsaPrivateNumbers (der : Bytes) : Option PrivateKey := do
  let contents ← Der.whole Tag.sequence der
  match ← Der.unsigneds 9 contents with
  | [0, n, e, d, p, q, d1, d2, c] => PrivateKey.ofNumbers? ⟨n, e⟩ d p q d1 d2 c
  | _ => none

/-- What follows an optional element of this tag at the front. -/
def skipOptional (tag : UInt8) (data : Bytes) : Bytes :=
  match Der.read tag data with
  | some (_, rest) => rest
  | none => data

/-- The parts of a PrivateKeyInfo: algorithm, its parameters and the key. -/
def readPrivateInfoParts (der : Bytes) : Option (ObjectIdentifier × Bytes × Bytes) := do
  let contents ← Der.whole Tag.sequence der
  let (version, rest) ← Der.readUnsigned contents
  let (algorithm, rest) ← Der.read Tag.sequence rest
  let (oid, parameters) ← ObjectIdentifier.read algorithm
  let (key, rest) ← Der.read Tag.octetString rest
  if version = 0 ∧ skipOptional (Tag.context 0) rest = [] then some (oid, parameters, key)
  else none

/-- The labels under which a private key can stand. -/
def privateLabels : List Bytes :=
  [privateLabel, rsaPrivateLabel, curvePrivateLabel, dsaPrivateLabel, encryptedLabel]

section

variable [KeyLibrary]

def readRsaPrivateKey (der : Bytes) : Except Unreadable (Found PrivateKey) :=
  match (rsaPrivateNumbers der).filter KeyLibrary.admitsPrivate with
  | some key => .ok (.rsa key)
  | none => .error .malformed

def readPrivateInfo (der : Bytes) : Except Unreadable (Found PrivateKey) :=
  match readPrivateInfoParts der with
  | none => .error .malformed
  | some (oid, parameters, key) =>
    if oid = .rsaEncryption then
      if isNoParameters parameters then readRsaPrivateKey key else .error .malformed
    else KeyLibrary.privateKey oid parameters key

/-- Reads the first block that a private key can stand in; an encrypted one is not read. -/
def readPrivatePem (text : Bytes) : Except Unreadable (Found PrivateKey) :=
  match Pem.find? privateLabels text with
  | none => .error .malformed
  | some block =>
    if block.label = privateLabel then readPrivateInfo block.contents
    else if block.label = rsaPrivateLabel then readRsaPrivateKey block.contents
    else if block.label = encryptedLabel then .error .malformed
    else KeyLibrary.labelledKey block.label block.contents

/-- The RSA key of the required size in the text of the file at `path`. -/
def parsePrivateKey (path : String) (text : Bytes) : Except KeyFileError PrivateKey :=
  match readPrivatePem text with
  | .error (.unsupported description) => .error (.unsupported description)
  | .error .malformed => .error (.refused (.notPrivateKey path))
  | .ok .foreign => .error (.refused .privateNotRsa)
  | .ok (.rsa key) => match checkSize key.toPublicKey with
    | .ok () => .ok key
    | .error e => .error (.refused e)

end

end Rs256Cose.Keys
