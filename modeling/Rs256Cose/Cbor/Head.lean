import Rs256Cose.Error

/-!
# Heads of CBOR items

Every CBOR item starts with a head: three bits of major type and an argument below `2 ^ 64`, which
is held in the other five bits of the first byte or in 1, 2, 4 or 8 further bytes (RFC 8949,
section 3). Only the shortest of these spellings is written (`encode`), and reading refuses every
other one (`read`), so a head that was read is the head that would be written.
-/

namespace Rs256Cose.Cbor

inductive MajorType where
  | unsigned | negative | bytes | text | array | map | tag | simple
  deriving DecidableEq, Repr

namespace MajorType

def code : MajorType → Nat
  | unsigned => 0
  | negative => 1
  | bytes => 2
  | text => 3
  | array => 4
  | map => 5
  | tag => 6
  | simple => 7

def ofCode? : Int → Option MajorType
  | 0 => some unsigned
  | 1 => some negative
  | 2 => some bytes
  | 3 => some text
  | 4 => some array
  | 5 => some map
  | 6 => some tag
  | 7 => some simple
  | _ => none

/-- The major type in the high three bits of a head's first byte. -/
def ofFirstByte (b : UInt8) : MajorType :=
  match b.toNat / 32 with
  | 0 => unsigned
  | 1 => negative
  | 2 => bytes
  | 3 => text
  | 4 => array
  | 5 => map
  | 6 => tag
  | _ => simple

theorem ofCode?_code (m : MajorType) : ofCode? m.code = some m := by cases m <;> rfl

theorem code_lt (m : MajorType) : m.code < 8 := by cases m <;> decide

theorem code_ofFirstByte (b : UInt8) : (ofFirstByte b).code = b.toNat / 32 := by
  have hb := b.toNat_lt
  have h : b.toNat / 32 < 8 := by omega
  unfold ofFirstByte
  generalize b.toNat / 32 = k at h
  match k, h with
  | 0, _ | 1, _ | 2, _ | 3, _ | 4, _ | 5, _ | 6, _ | 7, _ => rfl

end MajorType

/-! ### Writing -/

structure Head where
  major : MajorType
  argument : Nat
  deriving DecidableEq, Repr

/-- How many bytes follow the first byte of the shortest head with this argument. -/
def followingBytes (argument : Nat) : Nat :=
  if argument < 24 then 0
  else if argument < 0x100 then 1
  else if argument < 0x10000 then 2
  else if argument < 0x100000000 then 4
  else 8

/-- The low five bits of the first byte: the argument itself, or the code of the width in which
it follows. -/
def additionalInfo (argument : Nat) : Nat :=
  match followingBytes argument with
  | 0 => argument
  | 1 => 24
  | 2 => 25
  | 4 => 26
  | _ => 27

/-- The shortest spelling of a head. -/
def Head.encode (h : Head) : Bytes :=
  UInt8.ofNat (32 * h.major.code + additionalInfo h.argument) ::
    Bytes.ofNat (followingBytes h.argument) h.argument

theorem Head.length_encode (h : Head) : h.encode.length = 1 + followingBytes h.argument := by
  simp [encode, Nat.add_comm]

/-- Arguments are below `2 ^ 64`. -/
def argumentLimit : Nat := 0x10000000000000000

/-- The length of the head with this argument; only a whole number below the limit has one. -/
def headSize (argument : Int) : Except EncodeError Nat :=
  if argument < 0 ∨ argumentLimit ≤ argument then .error (.argumentOutOfRange argument)
  else .ok (1 + followingBytes argument.toNat)

/-- The head of an item of this major type. -/
def MajorType.head (m : MajorType) (argument : Int) : Except EncodeError Bytes :=
  (headSize argument).map fun _ => Head.encode ⟨m, argument.toNat⟩

/-- The head for a major type given by its number, which is looked at before the argument. -/
def encodeHead (major argument : Int) : Except EncodeError Bytes :=
  match MajorType.ofCode? major with
  | none => .error (.unknownMajorType major)
  | some m => m.head argument

/-! ### Reading -/

/-- How many bytes follow a first byte with this code of a width. -/
def widthOfInfo : Nat → Nat
  | 24 => 1
  | 25 => 2
  | 26 => 4
  | _ => 8

/-- The head at a position of a byte string, with the position after it. Positions are as in
`Bytes.byte?` and `Bytes.slice`: a negative one counts from the end. -/
def readHead (buf : Bytes) (pos : Int) : Except DecodeError (Head × Int) :=
  if buf.length ≤ pos then .error .missingHead
  else match buf.byte? pos with
  | none => .error .beforeStart
  | some first =>
    let info := first.toNat % 32
    if info < 24 then .ok (⟨.ofFirstByte first, info⟩, pos + 1)
    else if info = 31 then .error .indefiniteLength
    else if 27 < info then .error (.reservedInfo info)
    else
      let width := widthOfInfo info
      let next := pos + 1 + width
      if buf.length < next then .error .truncatedHead
      else
        let argument := (buf.slice (pos + 1) next).toNat
        if followingBytes argument = width then .ok (⟨.ofFirstByte first, argument⟩, next)
        else .error (.nonMinimalHead argument width)

/-- The position after a head that must have the given major type and argument. -/
def expectHead (buf : Bytes) (pos major argument : Int) (what : String) :
    Except DecodeError Int :=
  (readHead buf pos).bind fun (head, next) =>
    if head.major.code ≠ major then .error (.otherMajorType what major head.major.code)
    else if head.argument ≠ argument then .error (.otherCount what argument head.argument)
    else .ok next

/-- The unsigned integer at a position, with the position after it. -/
def readUnsigned (buf : Bytes) (pos : Int) : Except DecodeError (Nat × Int) :=
  (readHead buf pos).bind fun (head, next) =>
    if head.major = .unsigned then .ok (head.argument, next)
    else .error (.notUnsigned head.major.code)

end Rs256Cose.Cbor
