import Rs256Cose.Cbor.ByteString

/-!
# CBOR items

The data items of definite length (RFC 8949, section 3) and their deterministic encoding: shortest
heads, contents in the order given. A length or number of `2 ^ 64` and above has no encoding.
-/

namespace Rs256Cose.Cbor

inductive Item where
  | unsigned (n : Nat)
  /-- The number `-1 - n`. -/
  | negative (n : Nat)
  | bytes (data : Bytes)
  | text (chars : String)
  | array (items : List Item)
  | map (entries : List (Item × Item))
  | tag (number : Nat) (content : Item)

mutual

def Item.encode : Item → Except EncodeError Bytes
  | .unsigned n => MajorType.unsigned.head n
  | .negative n => MajorType.negative.head n
  | .bytes data => encodeByteString data
  | .text chars => do
    let data := Bytes.ofText chars
    let head ← MajorType.text.head data.length
    return head ++ data
  | .array items => do
    let head ← MajorType.array.head items.length
    let contents ← encodeItems items
    return head ++ contents
  | .map entries => do
    let head ← MajorType.map.head entries.length
    let contents ← encodeEntries entries
    return head ++ contents
  | .tag number content => do
    let head ← MajorType.tag.head number
    let contents ← content.encode
    return head ++ contents

def encodeItems : List Item → Except EncodeError Bytes
  | [] => return []
  | item :: items => do
    let first ← item.encode
    let rest ← encodeItems items
    return first ++ rest

def encodeEntry : Item × Item → Except EncodeError Bytes
  | (key, value) => do
    let key ← key.encode
    let value ← value.encode
    return key ++ value

def encodeEntries : List (Item × Item) → Except EncodeError Bytes
  | [] => return []
  | entry :: entries => do
    let first ← encodeEntry entry
    let rest ← encodeEntries entries
    return first ++ rest

end

end Rs256Cose.Cbor
