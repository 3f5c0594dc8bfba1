import Rs256Cose.Cbor.ByteString

/-!
# The bytes that are signed

A signature is over the CBOR array `["Signature1", protected header, h'', payload]` (RFC 9052,
section 4.4, with no external data). `size` computes its length beforehand, `writeInto` writes it
into a buffer of a caller, `encode` into one of the right length.
-/

namespace Rs256Cose

open Profile Cbor

namespace ToBeSigned

/-- The array head and the context string, which are the same for every message. -/
def opening : Bytes := 0x84 :: 0x6a :: signingContext

/-- The length for a protected header and a payload of the given lengths. -/
def size (headerLength payloadLength : Int) : Except EncodeError Nat := do
  let header ← byteStringSize headerLength
  let external ← byteStringSize 0
  let payload ← byteStringSize payloadLength
  return opening.length + header + external + payload

/-- Writes byte strings one after the other from a position on. Gives the position after them, or
the first refusal, and the buffer as it is afterwards. -/
def writeItems (out : Bytes) (pos : Nat) : List Bytes → Except EncodeError Nat × Bytes
  | [] => (.ok pos, out)
  | data :: rest =>
    match encodeByteString data with
    | .error e => (.error e, out)
    | .ok item => writeItems (out.overwriteAt pos item) (pos + item.length) rest

/-- Writes at the start of a buffer, if the buffer is long enough. Gives the number of bytes
written, or the refusal, and the buffer as it is afterwards. -/
def writeInto (header payload out : Bytes) : Except EncodeError Nat × Bytes :=
  match size header.length payload.length with
  | .error e => (.error e, out)
  | .ok needed =>
    if out.length < needed then (.error (.noRoomForToBeSigned needed out.length), out)
    else match writeItems (out.overwrite opening) opening.length [header, [], payload] with
    | (.error e, out) => (.error e, out)
    | (.ok written, out) =>
      if written ≠ needed then (.error (.toBeSignedSize needed written), out)
      else (.ok written, out)

/-- The bytes that are signed for a protected header and a payload. -/
def encode (header payload : Bytes) : Except EncodeError Bytes := do
  let needed ← size header.length payload.length
  let (answer, out) := writeInto header payload (List.replicate needed 0)
  answer.map fun written => out.take written

end ToBeSigned

end Rs256Cose
