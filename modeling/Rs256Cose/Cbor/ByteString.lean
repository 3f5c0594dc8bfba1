import Rs256Cose.Cbor.Head

/-!
# CBOR byte strings

A byte string is a head of major type 2 whose argument is the length, followed by that many bytes.
-/

namespace Rs256Cose.Cbor

/-- The length of the item that holds a byte string of this length. -/
def byteStringSize (length : Int) : Except EncodeError Nat :=
  (headSize length).map fun head => head + length.toNat

def encodeByteString (data : Bytes) : Except EncodeError Bytes :=
  (MajorType.bytes.head data.length).map fun head => head ++ data

/-- The byte string at a position, with the position after it. -/
def readByteString (buf : Bytes) (pos : Int) : Except DecodeError (Bytes × Int) :=
  (readHead buf pos).bind fun (head, start) =>
    if head.major ≠ .bytes then .error (.notByteString head.major.code)
    else
      let next := start + head.argument
      if buf.length < next then .error (.truncatedByteString head.argument)
      else .ok (buf.slice start next, next)

end Rs256Cose.Cbor
