import Rs256Cose.Keys.Library
import Rs256Cose.Text.Pem

/-!
# Public key files

A public key is written as a SubjectPublicKeyInfo (RFC 5280), in DER or framed as PEM. It is read
from either, and also from the bare RSAPublicKey of RFC 8017. `loadPublicKey` accepts RSA keys of
the one size that signatures need. `exportPublicKey` refuses keys too long for a message header.
-/

namespace Rs256Cose.Keys

open Asn1 Rsa Text

/-! ### Writing -/

/-- The RSAPublicKey: modulus and exponent. -/
def encodeRsaPublicKey (key : PublicKey) : Bytes :=
  Der.sequence [Der.unsigned key.modulus, Der.unsigned key.exponent]

/-- The AlgorithmIdentifier of RSA. -/
def rsaAlgorithm : Bytes := Der.sequence [ObjectIdentifier.rsaEncryption.encode, Der.null]

/-- The SubjectPublicKeyInfo. -/
def encodePublicInfo (key : PublicKey) : Bytes :=
  Der.sequence [rsaAlgorithm, Der.bitString (encodeRsaPublicKey key)]

def publicLabel : Bytes := Bytes.ofText "PUBLIC KEY"

def rsaPublicLabel : Bytes := Bytes.ofText "RSA PUBLIC KEY"

def encodePublicPem (key : PublicKey) : Bytes := Pem.encode ⟨publicLabel, encodePublicInfo key⟩

/-- The SubjectPublicKeyInfo, if a message header can hold it. -/
def exportPublicKey (key : PublicKey) : Except KeyError Bytes :=
  let der := encodePublicInfo key
  if Profile.maxKeyLength < der.length then .error (.exportTooLong der.length) else .ok der

/-- The bytes that identify a key: modulus and exponent, each in the fewest bytes. -/
def identity (key : PublicKey) : Bytes := Bytes.shortest key.modulus ++ Bytes.shortest key.exponent

/-- The digest under which the use of a key is recorded. -/
def keyHash (key : PublicKey) : Digest := sha256 (identity key)

/-! ### Reading -/

/-- The two numbers of an RSAPublicKey. -/
def rsaPublicNumbers (der : Bytes) : Option PublicKey := do
  let contents ← Der.whole Tag.sequence der
  match ← Der.unsigneds 2 contents with
  | [modulus, exponent] => some ⟨modulus, exponent⟩
  | _ => none

/-- Whether algorithm parameters are left out or null. -/
def isNoParameters (parameters : Bytes) : Bool := parameters = [] ∨ parameters = Der.null

/-- The parts of a SubjectPublicKeyInfo: algorithm, its parameters, unused bits and bytes. -/
def readPublicInfoParts (der : Bytes) : Option (ObjectIdentifier × Bytes × Nat × Bytes) := do
  let contents ← Der.whole Tag.sequence der
  let (algorithm, rest) ← Der.read Tag.sequence contents
  let (oid, parameters) ← ObjectIdentifier.read algorithm
  let bits ← Der.whole Tag.bitString rest
  let (unused, bytes) ← Der.bitsOfContents bits
  return (oid, parameters, unused, bytes)

section

variable [KeyLibrary]

def readRsaPublicKey (der : Bytes) : Option PublicKey :=
  (rsaPublicNumbers der).filter KeyLibrary.admits

/-- The key in the bytes of a SubjectPublicKeyInfo, by its algorithm. -/
def readPublicBits (oid : ObjectIdentifier) (parameters : Bytes) (unused : Nat) (bytes : Bytes) :
    Except Unreadable (Found PublicKey) :=
  if oid = .rsaEncryption then
    if isNoParameters parameters ∧ unused = 0 then
      match readRsaPublicKey bytes with
      | some key => .ok (.rsa key)
      | none => .error .malformed
    else .error .malformed
  else KeyLibrary.publicKey oid parameters unused bytes

def readPublicInfo (der : Bytes) : Except Unreadable (Found PublicKey) :=
  match readPublicInfoParts der with
  | none => .error .malformed
  | some (oid, parameters, unused, bytes) => readPublicBits oid parameters unused bytes

/-- Reads a SubjectPublicKeyInfo, or else a bare RSAPublicKey. -/
def readPublicDer (der : Bytes) : Except Unreadable (Found PublicKey) :=
  match readPublicInfo der, readRsaPublicKey der with
  | .ok found, _ => .ok found
  | .error _, some key => .ok (.rsa key)
  | .error e, none => .error e

/-- Reads the first PEM block. Under the label of a bare RSA key either form may stand, but it
must hold an RSA key. -/
def readPublicPem (text : Bytes) : Except Unreadable (Found PublicKey) :=
  match Pem.readBlock text with
  | some (some block, _) =>
    if block.label = publicLabel then readPublicInfo block.contents
    else if block.label = rsaPublicLabel then
      match readRsaPublicKey block.contents, readPublicInfo block.contents with
      | some key, _ | none, .ok (.rsa key) => .ok (.rsa key)
      | none, _ => .error .malformed
    else .error .malformed
  | _ => .error .malformed

end

/-- The text by which PEM is told from DER, after any white space. -/
def pemOpening : Bytes := Pem.dashes ++ Bytes.ofText "BEGIN"

def readPublicKey [KeyLibrary] (data : Bytes) : Except Unreadable (Found PublicKey) :=
  if pemOpening.isPrefixOf (data.dropWhile Pem.isBlank) then readPublicPem data
  else readPublicDer data

/-- The key, if it has the size that signatures need. -/
def checkSize (key : PublicKey) : Except KeyError Unit :=
  if key.size = requiredBits then .ok () else .error (.otherSize key.size)

/-- The RSA key of the required size in a file of PEM or DER. -/
def loadPublicKey [KeyLibrary] (data : Bytes) : Except KeyFileError PublicKey :=
  match readPublicKey data with
  | .error (.unsupported description) => .error (.unsupported description)
  | .error .malformed => .error (.refused .notPublicKey)
  | .ok .foreign => .error (.refused .publicNotRsa)
  | .ok (.rsa key) => match checkSize key with
    | .ok () => .ok key
    | .error e => .error (.refused e)

end Rs256Cose.Keys
