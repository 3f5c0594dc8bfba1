import Rs256Cose.Profile

/-!
# Why bytes cannot be written or read

`EncodeError` lists the causes for which a message, or a part of one, cannot be built or written;
`DecodeError` those for which a byte string is not a message. `message` is the wording of each.
-/

namespace Rs256Cose

open Profile

inductive EncodeError where
  /-- A CBOR argument is a whole number below `2 ^ 64`. -/
  | argumentOutOfRange (argument : Int)
  | unknownMajorType (major : Int)
  /-- A field that holds bytes was given a value of another kind. -/
  | notBytes (field kind : String)
  | keyTooLong (length : Nat)
  | foreignProtectedHeader
  | signatureLength (length : Nat)
  | noRoomForMessage (needed available : Nat)
  | noRoomForToBeSigned (needed available : Nat)
  /-- The array of a message cannot be encoded. -/
  | messageNotEncoded
  /-- What was written is not as long as computed beforehand. -/
  | messageSize (computed produced : Nat)
  | toBeSignedSize (computed written : Nat)
  | draftSize (computed written : Nat)
  deriving DecidableEq, Repr

def EncodeError.message : EncodeError → String
  | .argumentOutOfRange argument => s!"CBOR argument out of range: {argument}"
  | .unknownMajorType major => s!"bad major type {major}"
  | .notBytes field kind => s!"{field} must be bytes-like, got {kind}"
  | .keyTooLong length => s!"signer public key DER is {length} bytes, limit is {maxKeyLength}"
  | .foreignProtectedHeader => "protected header must be the fixed RS256/application-json header"
  | .signatureLength length =>
    s!"signature must be exactly {Profile.signatureLength} bytes, got {length}"
  | .noRoomForMessage needed available =>
    s!"COSE_Sign1 needs {needed} bytes, destination has {available}"
  | .noRoomForToBeSigned needed available =>
    s!"Sig_structure needs {needed} bytes, destination has {available}"
  | .messageNotEncoded => "CBOR encoder rejected COSE_Sign1 array"
  | .messageSize computed produced =>
    s!"COSE_Sign1 size mismatch: computed {computed}, encoder produced {produced}"
  | .toBeSignedSize computed written =>
    s!"Sig_structure size mismatch: computed {computed}, wrote {written}"
  | .draftSize computed written =>
    s!"to-be-signed size mismatch: sized {computed}, wrote {written}"

inductive DecodeError where
  | missingHead
  /-- A position counted from the end lies before the start of the input. -/
  | beforeStart
  | indefiniteLength
  | reservedInfo (info : Nat)
  | truncatedHead
  | nonMinimalHead (argument width : Nat)
  | notByteString (major : Nat)
  | truncatedByteString (length : Nat)
  | notUnsigned (major : Nat)
  | otherMajorType (what : String) (expected : Int) (found : Nat)
  | otherCount (what : String) (expected : Int) (found : Nat)
  | emptyInput
  | otherTag (found : UInt8)
  | otherLabel (found : Nat)
  | keyTooLong (length : Nat)
  | trailingBytes (count : Int)
  | foreignProtectedHeader
  | signatureLength (length : Nat)
  deriving DecidableEq, Repr

def DecodeError.message : DecodeError → String
  | .missingHead => "truncated CBOR: missing head"
  | .beforeStart => "index out of range"
  | .indefiniteLength => "indefinite-length items are not supported"
  | .reservedInfo info => s!"reserved additional info {info}"
  | .truncatedHead => "truncated CBOR: head argument runs past end of input"
  | .nonMinimalHead argument width =>
    s!"non-minimal head: argument {argument} encoded in {width} bytes"
  | .notByteString major => s!"expected bstr, found major type {major}"
  | .truncatedByteString length => s!"truncated CBOR: bstr of {length} bytes runs past end of input"
  | .notUnsigned major => s!"expected uint, found major type {major}"
  | .otherMajorType what expected found => s!"{what}: expected major type {expected}, found {found}"
  | .otherCount what expected found => s!"{what}: expected {expected} entries, found {found}"
  | .emptyInput => "empty input"
  | .otherTag found =>
    "expected COSE_Sign1 tag 0x" ++ Bytes.hex [tagByte] ++ ", found 0x" ++ Bytes.hex [found]
  | .otherLabel found => s!"unprotected header: unexpected label {found}"
  | .keyTooLong length => s!"signer public key DER is {length} bytes, limit is {maxKeyLength}"
  | .trailingBytes count => s!"{count} trailing bytes after COSE_Sign1"
  | .foreignProtectedHeader => "unsupported protected header"
  | .signatureLength length => s!"signature must be {Profile.signatureLength} bytes, got {length}"

end Rs256Cose
