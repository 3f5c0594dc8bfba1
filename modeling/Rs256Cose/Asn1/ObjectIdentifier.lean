import Rs256Cose.Asn1.Der

/-!
# Object identifiers

An object identifier is a list of numbers. Its DER contents join the first two to one number and
write each number in base 128, where every digit but the last has its high bit set.
-/

namespace Rs256Cose.Asn1

abbrev ObjectIdentifier := List Nat

namespace ObjectIdentifier

/-- Numbers joined with dots. -/
def dotted (oid : ObjectIdentifier) : String := ".".intercalate (oid.map toString)

/-! ### Writing -/

/-- The leading base-128 digits of a number, each marked as not the last. -/
def leadingDigits : Nat → Nat → Bytes
  | 0, _ => []
  | fuel + 1, n =>
    if n = 0 then [] else leadingDigits fuel (n / 128) ++ [UInt8.ofNat (128 + n % 128)]

def base128 (n : Nat) : Bytes := leadingDigits n (n / 128) ++ [UInt8.ofNat (n % 128)]

def contents : ObjectIdentifier → Bytes
  | first :: second :: rest => ((40 * first + second) :: rest).flatMap base128
  | _ => []

def encode (oid : ObjectIdentifier) : Bytes := Der.element Tag.objectIdentifier oid.contents

/-! ### Reading -/

/-- The numbers in base 128, from the value and the count of the digits of a number begun. Each
number is written without leading zeros, in at most four digits. -/
def readNumbers (value digits : Nat) : Bytes → Option (List Nat)
  | [] => if digits = 0 then some [] else none
  | b :: rest =>
    if digits = 4 ∨ (digits = 0 ∧ b = 0x80) then none
    else
      let value := 128 * value + b.toNat % 128
      if b < 0x80 then (readNumbers 0 0 rest).map (value :: ·)
      else readNumbers value (digits + 1) rest

/-- The object identifier with these contents, of at most 63 bytes. -/
def ofContents (contents : Bytes) : Option ObjectIdentifier :=
  if 63 < contents.length then none
  else match readNumbers 0 0 contents with
  | some (joined :: rest) =>
    if joined < 40 then some (0 :: joined :: rest)
    else if joined < 80 then some (1 :: (joined - 40) :: rest)
    else some (2 :: (joined - 80) :: rest)
  | _ => none

/-- An object identifier at the front, with what follows it. -/
def read (data : Bytes) : Option (ObjectIdentifier × Bytes) := do
  let (contents, rest) ← Der.read Tag.objectIdentifier data
  let oid ← ofContents contents
  return (oid, rest)

/-- The identifier of plain RSA keys. -/
def rsaEncryption : ObjectIdentifier := [1, 2, 840, 113549, 1, 1, 1]

end ObjectIdentifier

end Rs256Cose.Asn1
