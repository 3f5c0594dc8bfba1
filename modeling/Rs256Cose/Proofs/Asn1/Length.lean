import Mathlib
import Rs256Cose.Proofs.Asn1.Der

/-!
# Lengths of DER elements

The length of an element depends on that of its contents alone (`elementLength`): contents of fewer
than 128 bytes have two bytes in front of them, of fewer than 256 three, of fewer than 65536 four,
longer ones more. An INTEGER has one bit to spare for its sign, so its contents have one byte more
than its bits fill (`length_unsignedContents`).
-/

namespace Rs256Cose.Asn1.Der

open Bytes

theorem length_unsignedContents (n : Nat) :
    (unsignedContents n).length = bitLength n / 8 + 1 := by
  have hlength := length_shortest n
  unfold unsignedContents
  split
  · next first rest hs =>
    have hsign := lt_0x80_iff_of_shortest hs
    rw [hs, List.length_cons] at hlength
    split_ifs with hfirst
    · have hbits := hsign.mp hfirst
      rw [List.length_cons]
      omega
    · have hbits := mt hsign.mpr hfirst
      rw [List.length_cons, List.length_cons]
      omega
  · next hs =>
    rw [hs, List.length_nil] at hlength
    omega

/-! ### Elements -/

/-- The length of an element by that of its contents. -/
def elementLength (n : Nat) : Nat := 1 + (encodeLength n).length + n

theorem length_element (tag : UInt8) (contents : Bytes) :
    (element tag contents).length = elementLength contents.length := by
  simp only [element, elementLength, List.cons_append, List.length_cons, List.length_append]
  omega

theorem elementLength_short {n : Nat} (h : n < 128) : elementLength n = n + 2 := by
  rw [elementLength, encodeLength, if_pos h, List.length_singleton, Nat.add_comm]

/-- A length from 128 on takes as many bytes as its digits, and one more. -/
theorem elementLength_of_le {n : Nat} (h : 128 ≤ n) :
    elementLength n = n + 2 + (shortest n).length := by
  simp only [elementLength, encodeLength, if_neg (Nat.not_lt.mpr h), List.length_cons]
  omega

theorem elementLength_twoBytes {n : Nat} (hlow : 256 ≤ n) (hhigh : n < 65536) :
    elementLength n = n + 4 := by
  have hdigits : (shortest n).length = 2 := length_shortest_eq (k := 1) hlow hhigh
  rw [elementLength_of_le (by omega), hdigits]

/-- Contents grow by two bytes at least. -/
theorem add_two_le_elementLength (n : Nat) : n + 2 ≤ elementLength n := by
  by_cases h : n < 128
  · exact (elementLength_short h).ge
  · rw [elementLength_of_le (Nat.not_lt.mp h)]
    omega

/-- From 256 bytes on they grow by four at least. -/
theorem add_four_le_elementLength {n : Nat} (h : 256 ≤ n) : n + 4 ≤ elementLength n := by
  have hbits : ¬ bitLength n ≤ 8 := fun hle =>
    absurd (bitLength_le_iff.mp hle) (Nat.not_lt.mpr h)
  have hdigits := length_shortest n
  rw [elementLength_of_le (by omega)]
  omega

end Rs256Cose.Asn1.Der
