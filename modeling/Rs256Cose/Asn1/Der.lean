import Rs256Cose.Bytes

/-!
# DER elements

An element of the distinguished encoding (X.690) is a tag byte, the length of the contents in the
fewest bytes, and the contents. The readers take one element from the front of a byte string and
refuse every spelling but the one that the writers produce; `whole` demands that nothing follows.
Tags that take more than one byte are refused.
-/

namespace Rs256Cose.Asn1

namespace Tag

def integer : UInt8 := 0x02
def bitString : UInt8 := 0x03
def octetString : UInt8 := 0x04
def null : UInt8 := 0x05
def objectIdentifier : UInt8 := 0x06
def sequence : UInt8 := 0x30

/-- The constructed context-specific tag with this number. -/
def context (number : UInt8) : UInt8 := 0xa0 + number

end Tag

namespace Der

/-! ### Writing -/

def encodeLength (n : Nat) : Bytes :=
  if n < 128 then [UInt8.ofNat n]
  else
    let digits := Bytes.shortest n
    UInt8.ofNat (128 + digits.length) :: digits

def element (tag : UInt8) (contents : Bytes) : Bytes :=
  tag :: encodeLength contents.length ++ contents

/-- The contents of an INTEGER: the fewest bytes with a clear sign bit. -/
def unsignedContents (n : Nat) : Bytes :=
  match Bytes.shortest n with
  | first :: rest => if first < 0x80 then first :: rest else 0x00 :: first :: rest
  | [] => []

def unsigned (n : Nat) : Bytes := element Tag.integer (unsignedContents n)

def sequence (elements : List Bytes) : Bytes := element Tag.sequence elements.flatten

def octetString (contents : Bytes) : Bytes := element Tag.octetString contents

/-- A BIT STRING of whole bytes. -/
def bitString (contents : Bytes) : Bytes := element Tag.bitString (0x00 :: contents)

def null : Bytes := element Tag.null []

/-! ### Reading -/

/-- A length at the front, with what follows it. -/
def readLength : Bytes → Option (Nat × Bytes)
  | [] => none
  | first :: rest =>
    if first < 0x80 then some (first.toNat, rest)
    else
      let width := first.toNat - 128
      let n := Bytes.toNat (rest.take width)
      if width = 0 ∨ rest.length < width ∨ n < 128 ∨ rest.head? = some 0 then none
      else some (n, rest.drop width)

/-- An element at the front: its tag, its contents, and what follows it. -/
def readElement : Bytes → Option (UInt8 × Bytes × Bytes)
  | [] => none
  | tag :: rest =>
    if tag &&& 0x1f = 0x1f then none
    else match readLength rest with
    | none => none
    | some (n, rest) => if rest.length < n then none else some (tag, rest.take n, rest.drop n)

/-- The contents of an element of this tag at the front, with what follows it. -/
def read (tag : UInt8) (data : Bytes) : Option (Bytes × Bytes) :=
  match readElement data with
  | some (found, contents, rest) => if found = tag then some (contents, rest) else none
  | none => none

/-- The contents of the one element of this tag that the data consist of. -/
def whole (tag : UInt8) (data : Bytes) : Option Bytes :=
  match read tag data with
  | some (contents, []) => some contents
  | _ => none

/-- The number that the contents of an INTEGER stand for, if it is not negative. -/
def unsignedOfContents : Bytes → Option Nat
  | [] => none
  | [b] => if b < 0x80 then some b.toNat else none
  | first :: second :: rest =>
    if first < 0x80 ∧ ¬(first = 0 ∧ second < 0x80) then
      some (Bytes.toNat (first :: second :: rest))
    else none

/-- A non-negative INTEGER at the front, with what follows it. -/
def readUnsigned (data : Bytes) : Option (Nat × Bytes) := do
  let (contents, rest) ← read Tag.integer data
  let n ← unsignedOfContents contents
  return (n, rest)

/-- As many non-negative INTEGERs as asked for, with nothing after them. -/
def unsigneds : Nat → Bytes → Option (List Nat)
  | 0, [] => some []
  | 0, _ :: _ => none
  | count + 1, data => do
    let (n, rest) ← readUnsigned data
    let ns ← unsigneds count rest
    return n :: ns

/-- The contents of a BIT STRING: how many bits of the last byte are unused, all of them zero,
and the bytes. -/
def bitsOfContents : Bytes → Option (Nat × Bytes)
  | [] => none
  | first :: bytes =>
    let unused := first.toNat
    match bytes.getLast? with
    | none => if unused = 0 then some (0, []) else none
    | some last =>
      if unused ≤ 7 ∧ last.toNat % (1 <<< unused) = 0 then some (unused, bytes) else none

end Der

end Rs256Cose.Asn1
