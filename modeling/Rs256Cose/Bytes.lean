/-!
# Byte strings

A byte string is a list of bytes. It reads as a number, most significant byte first (`toNat`); a
number is written in a given width (`ofNat`) or in the fewest bytes, at least one (`shortest`).
`ofNat_toNat` says that writing in the same width undoes reading.

Positions may be negative and then count from the end: `byte?` reads one byte, `slice` copies the
bytes between two positions, each clamped to the string.
-/

namespace Rs256Cose

abbrev Bytes := List UInt8

namespace Bytes

/-! ### Numbers -/

/-- The number a byte string spells, most significant byte first. -/
def toNat (bs : Bytes) : Nat := bs.foldl (fun n b => 256 * n + b.toNat) 0

/-- The last `width` base-256 digits of a number, most significant first. -/
def ofNat : Nat → Nat → Bytes
  | 0, _ => []
  | width + 1, n => ofNat width (n / 256) ++ [UInt8.ofNat n]

/-- The length of a number in binary; that of zero is zero. -/
def bitLength (n : Nat) : Nat := if n = 0 then 0 else n.log2 + 1

/-- A number in as few bytes as hold it, zero in one. -/
def shortest (n : Nat) : Bytes := ofNat (max 1 ((bitLength n + 7) / 8)) n

@[simp] theorem length_ofNat (width n : Nat) : (ofNat width n).length = width := by
  induction width generalizing n with
  | zero => rfl
  | succ width ih => simp [ofNat, ih]

/-- Byte strings grow at the end: the induction that fits most-significant-first numbers. -/
theorem concat_induction {motive : Bytes → Prop} (nil : motive [])
    (concat : ∀ bs b, motive bs → motive (bs ++ [b])) (bs : Bytes) : motive bs := by
  rw [← bs.reverse_reverse]
  generalize bs.reverse = rs
  induction rs with
  | nil => exact nil
  | cons b rs ih => rw [List.reverse_cons]; exact concat _ _ ih

theorem toNat_concat (bs : Bytes) (b : UInt8) : toNat (bs ++ [b]) = 256 * toNat bs + b.toNat := by
  simp [toNat]

theorem ofNat_toNat (bs : Bytes) : ofNat bs.length (toNat bs) = bs := by
  induction bs using concat_induction with
  | nil => rfl
  | concat bs b ih =>
    have hb := b.toNat_lt
    have hq : (256 * toNat bs + b.toNat) / 256 = toNat bs := by omega
    have hr : UInt8.ofNat (256 * toNat bs + b.toNat) = b := by
      apply UInt8.toNat_inj.mp
      rw [UInt8.toNat_ofNat']
      omega
    rw [toNat_concat, List.length_append, List.length_singleton, ofNat, hq, ih, hr]

/-! ### Positions -/

/-- The byte at a position; a negative position counts from the end. -/
def byte? (bs : Bytes) (i : Int) : Option UInt8 :=
  if 0 ≤ i then bs[i.toNat]?
  else if 0 ≤ i + bs.length then bs[(i + bs.length).toNat]?
  else none

/-- The place a slice bound denotes: a negative one counts from the end, and both kinds are
clamped to the string. -/
def bound (bs : Bytes) (i : Int) : Nat :=
  if i < 0 then (i + bs.length).toNat else min i.toNat bs.length

/-- A copy of the bytes from `start` up to `stop`, empty when the bounds cross. -/
def slice (bs : Bytes) (start stop : Int) : Bytes :=
  (bs.take (bs.bound stop)).drop (bs.bound start)

/-- `out` with its first bytes replaced by `data`. -/
def overwrite (out data : Bytes) : Bytes := data ++ out.drop data.length

theorem length_overwrite {out data : Bytes} (h : data.length ≤ out.length) :
    (overwrite out data).length = out.length := by
  simp only [overwrite, List.length_append, List.length_drop]
  omega

/-- `out` with the bytes from position `i` on replaced by `data`. -/
def overwriteAt (out : Bytes) (i : Nat) (data : Bytes) : Bytes :=
  out.take i ++ overwrite (out.drop i) data

theorem length_overwriteAt {out data : Bytes} {i : Nat} (h : i + data.length ≤ out.length) :
    (overwriteAt out i data).length = out.length := by
  have hdrop : data.length ≤ (out.drop i).length := by rw [List.length_drop]; omega
  rw [overwriteAt, List.length_append, length_overwrite hdrop, List.length_take, List.length_drop]
  omega

/-! ### Text -/

/-- Two lower-case hexadecimal digits per byte. -/
def hex (bs : Bytes) : String :=
  String.ofList (bs.flatMap fun b => [Nat.digitChar (b.toNat / 16), Nat.digitChar (b.toNat % 16)])

/-- The UTF-8 encoding of a text. -/
def ofText (s : String) : Bytes := s.toUTF8.data.toList

/-- The text of bytes that are all ASCII, character by character. -/
def asciiText (bs : Bytes) : String := String.ofList (bs.map fun b => Char.ofNat b.toNat)

end Bytes

end Rs256Cose
