import Rs256Cose.Bytes

/-!
# Base64

The standard alphabet of RFC 4648 with padding. `decode` reads only what `encode` writes: padding
stands at the end alone, and the bits that a padded group leaves over are zero.
-/

namespace Rs256Cose.Text.Base64

/-- The sign for a number below 64. -/
def sign (n : Nat) : UInt8 :=
  if n < 26 then UInt8.ofNat (65 + n)
  else if n < 52 then UInt8.ofNat (97 + (n - 26))
  else if n < 62 then UInt8.ofNat (48 + (n - 52))
  else if n = 62 then 0x2b
  else 0x2f

/-- The number that a sign stands for. -/
def value? (b : UInt8) : Option Nat :=
  if 65 ≤ b ∧ b ≤ 90 then some (b.toNat - 65)
  else if 97 ≤ b ∧ b ≤ 122 then some (b.toNat - 97 + 26)
  else if 48 ≤ b ∧ b ≤ 57 then some (b.toNat - 48 + 52)
  else if b = 0x2b then some 62
  else if b = 0x2f then some 63
  else none

theorem value?_sign : ∀ n < 64, value? (sign n) = some n := by decide

def padding : UInt8 := 0x3d

def encode : Bytes → Bytes
  | [] => []
  | [a] => [sign (a.toNat / 4), sign (a.toNat % 4 * 16), padding, padding]
  | [a, b] =>
    [sign (a.toNat / 4), sign (a.toNat % 4 * 16 + b.toNat / 16), sign (b.toNat % 16 * 4), padding]
  | a :: b :: c :: rest =>
    sign (a.toNat / 4) :: sign (a.toNat % 4 * 16 + b.toNat / 16) ::
      sign (b.toNat % 16 * 4 + c.toNat / 64) :: sign (c.toNat % 64) :: encode rest

/-- The one byte of a group with two signs of padding. -/
def decodeOne (w x : UInt8) : Option Bytes := do
  let w ← value? w
  let x ← value? x
  if x % 16 = 0 then some [UInt8.ofNat (4 * w + x / 16)] else none

/-- The two bytes of a group with one sign of padding. -/
def decodeTwo (w x y : UInt8) : Option Bytes := do
  let w ← value? w
  let x ← value? x
  let y ← value? y
  if y % 4 = 0 then some [UInt8.ofNat (4 * w + x / 16), UInt8.ofNat (x % 16 * 16 + y / 4)]
  else none

/-- The three bytes of a full group. -/
def decodeThree (w x y z : UInt8) : Option Bytes := do
  let w ← value? w
  let x ← value? x
  let y ← value? y
  let z ← value? z
  return [UInt8.ofNat (4 * w + x / 16), UInt8.ofNat (x % 16 * 16 + y / 4),
    UInt8.ofNat (y % 4 * 64 + z)]

def decode : Bytes → Option Bytes
  | [] => some []
  | [w, x, y, z] =>
    if z ≠ padding then decodeThree w x y z
    else if y ≠ padding then decodeTwo w x y
    else decodeOne w x
  | w :: x :: y :: z :: rest => do
    let group ← decodeThree w x y z
    let bytes ← decode rest
    return group ++ bytes
  | _ => none

end Rs256Cose.Text.Base64
