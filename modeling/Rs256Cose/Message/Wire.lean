import Rs256Cose.Cbor.Item
import Rs256Cose.Message.Basic

/-!
# The wire form of a message

A message is written as tag 18 and the array of four items: protected header, the map from label
248 to the signer's key, payload, signature (`item`). `size` computes the length beforehand,
`writeInto` writes into a buffer of a caller and `encode` into one of the right length. `decode`
walks the same layout with the strict readers of CBOR heads, so it accepts exactly what `encode`
writes.
-/

namespace Rs256Cose

open Profile Cbor

/-- The protected header encodes two parameters, algorithm and content type. -/
example : Item.encode (.map [(.unsigned 1, .negative (-1 - algorithm).toNat),
    (.unsigned 3, .text contentType)]) = .ok protectedHeader := rfl

namespace Message

/-! ### Writing -/

/-- The length of the header map that holds a key. -/
def keyMapSize (key : EmbeddedKey) : Except EncodeError Nat := do
  let map ← headSize 1
  let label ← headSize keyLabel
  let der ← byteStringSize key.der.length
  return map + label + der

/-- The length of the wire form. -/
def size (m : Message) : Except EncodeError Nat := do
  let array ← headSize 4
  let header ← byteStringSize protectedHeader.length
  let key ← keyMapSize m.key
  let payload ← byteStringSize m.payload.length
  let signature ← byteStringSize m.signature.bytes.length
  return 1 + array + header + key + payload + signature

/-- The message as a CBOR item. -/
def item (m : Message) : Item :=
  .tag 18 (.array [.bytes protectedHeader, .map [(.unsigned keyLabel, .bytes m.key.der)],
    .bytes m.payload, .bytes m.signature.bytes])

/-- Writes the wire form at the start of a buffer, if the buffer is long enough. Gives the number
of bytes written, or the refusal, and the buffer as it is afterwards. -/
def writeInto (m : Message) (out : Bytes) : Except EncodeError Nat × Bytes :=
  match m.size with
  | .error e => (.error e, out)
  | .ok needed =>
    if out.length < needed then (.error (.noRoomForMessage needed out.length), out)
    else match m.item.encode with
    | .error _ => (.error .messageNotEncoded, out)
    | .ok wire =>
      if wire.length ≠ needed then (.error (.messageSize needed wire.length), out)
      else (.ok needed, out.overwrite wire)

/-- The wire form, in a buffer of its length. -/
def encode (m : Message) : Except EncodeError Bytes := do
  let needed ← m.size
  let (answer, out) := m.writeInto (List.replicate needed 0)
  answer.map fun _ => out

/-! ### Reading -/

/-- The key in the header map at a position, with the position after the map. -/
def readKeyMap (buf : Bytes) (pos : Int) : Except DecodeError (EmbeddedKey × Int) := do
  let pos ← expectHead buf pos MajorType.map.code 1 "unprotected header"
  let (label, pos) ← readUnsigned buf pos
  if label ≠ keyLabel then throw (.otherLabel label)
  let (der, pos) ← readByteString buf pos
  if h : der.length ≤ maxKeyLength then return (⟨der, h⟩, pos)
  else throw (.keyTooLong der.length)

/-- The message whose wire form is the whole input. -/
def decode (data : Bytes) : Except DecodeError Message := do
  match data with
  | [] => throw .emptyInput
  | first :: _ => if first ≠ tagByte then throw (.otherTag first)
  let pos ← expectHead data 1 MajorType.array.code 4 "COSE_Sign1 array"
  let (header, pos) ← readByteString data pos
  let (key, pos) ← readKeyMap data pos
  let (payload, pos) ← readByteString data pos
  let (signature, pos) ← readByteString data pos
  if pos ≠ data.length then throw (.trailingBytes (data.length - pos))
  if header ≠ protectedHeader then throw .foreignProtectedHeader
  if h : signature.length = Profile.signatureLength then return ⟨payload, ⟨signature, h⟩, key⟩
  else throw (.signatureLength signature.length)

end Message

end Rs256Cose
