import Mathlib
import Rs256Cose.Asn1.ObjectIdentifier
import Rs256Cose.Proofs.Numbers

/-!
# DER read back

Each writer of DER elements is undone by the reader of the same element, whatever follows
(`read_element`, `readUnsigned_unsigned`, `unsigneds_flatten`). A length is below `lengthLimit`, the
numbers that the one byte of a long length can announce the digits of; `length_element_le` bounds
the growth of nested elements, so that every key in use stays below.
-/

namespace Rs256Cose.Asn1

open Bytes

namespace Der

/-- The lengths that can be announced. -/
def lengthLimit : Nat := 256 ^ 127

/-! ### Lengths -/

theorem readLength_encodeLength {n : Nat} (h : n < lengthLimit) (rest : Bytes) :
    readLength (encodeLength n ++ rest) = some (n, rest) := by
  unfold encodeLength
  split
  · next hsmall =>
    have hbyte : (UInt8.ofNat n).toNat = n := by rw [UInt8.toNat_ofNat']; omega
    have hlt : UInt8.ofNat n < 0x80 := by rw [UInt8.lt_iff_toNat_lt, hbyte]; exact hsmall
    rw [List.singleton_append, readLength, if_pos hlt, hbyte]
  · next hlarge =>
    obtain ⟨first, digits, hdigits, hfirst⟩ := exists_shortest_eq_cons (n := n) (by omega)
    have hwidth : (shortest n).length ≤ 127 := length_shortest_le (by decide) h
    have hpos : (shortest n).length ≠ 0 := by rw [hdigits]; exact Nat.succ_ne_zero _
    have hbyte : (UInt8.ofNat (128 + (shortest n).length)).toNat = 128 + (shortest n).length := by
      rw [UInt8.toNat_ofNat']; omega
    have hge : ¬ UInt8.ofNat (128 + (shortest n).length) < 0x80 := by
      rw [UInt8.lt_iff_toNat_lt, hbyte]
      exact not_lt.mpr (Nat.le_add_right 128 _)
    have hhead : (shortest n ++ rest).head? ≠ some 0 := by
      rw [hdigits]
      exact fun h => hfirst (Option.some.inj h)
    simp only [List.cons_append, readLength, if_neg hge, hbyte, Nat.add_sub_cancel_left,
      List.take_left, List.drop_left, toNat_shortest]
    -- the reader refuses no digits, too few bytes, a length that fits one byte, a leading zero
    rw [if_neg]
    rintro (h | h | h | h)
    · exact hpos h
    · rw [List.length_append] at h; omega
    · omega
    · exact hhead h

theorem length_encodeLength_le (n : Nat) : (encodeLength n).length ≤ n + 2 := by
  unfold encodeLength
  split
  · simp only [List.length_singleton]; omega
  · have hlt : n < 256 ^ n := Nat.lt_pow_self (by decide)
    have hstep : 256 ^ n < 256 ^ (n + 1) := Nat.pow_lt_pow_right (by decide) (by omega)
    have hle : (shortest n).length ≤ n + 1 :=
      length_shortest_le (Nat.succ_pos n) (lt_trans hlt hstep)
    simp only [List.length_cons]
    omega

/-! ### Elements -/

theorem readElement_element {tag : UInt8} {contents : Bytes} (htag : tag &&& 0x1f ≠ 0x1f)
    (h : contents.length < lengthLimit) (rest : Bytes) :
    readElement (element tag contents ++ rest) = some (tag, contents, rest) := by
  have hroom : ¬ (contents ++ rest).length < contents.length := by
    rw [List.length_append]; omega
  simp only [element, List.cons_append, List.append_assoc, readElement, if_neg htag,
    readLength_encodeLength h, if_neg hroom, List.take_left, List.drop_left]

theorem read_element {tag : UInt8} {contents : Bytes} (htag : tag &&& 0x1f ≠ 0x1f)
    (h : contents.length < lengthLimit) (rest : Bytes) :
    read tag (element tag contents ++ rest) = some (contents, rest) := by
  unfold read
  rw [readElement_element htag h]
  simp only [if_true]

theorem whole_element {tag : UInt8} {contents : Bytes} (htag : tag &&& 0x1f ≠ 0x1f)
    (h : contents.length < lengthLimit) : whole tag (element tag contents) = some contents := by
  have hread := read_element htag h []
  rw [List.append_nil] at hread
  unfold whole
  rw [hread]

theorem length_element_le (tag : UInt8) (contents : Bytes) :
    (element tag contents).length ≤ 2 * contents.length + 3 := by
  have h := length_encodeLength_le contents.length
  simp only [element, List.cons_append, List.length_cons, List.length_append]
  omega

theorem whole_sequence {elements : List Bytes} (h : elements.flatten.length < lengthLimit) :
    whole Tag.sequence (sequence elements) = some elements.flatten :=
  whole_element (by decide) h

/-! ### Numbers -/

theorem unsignedOfContents_of_lt {first : UInt8} {rest : Bytes} (hfirst : first < 0x80)
    (hminimal : rest = [] ∨ first ≠ 0) :
    unsignedOfContents (first :: rest) = some (toNat (first :: rest)) := by
  cases rest with
  | nil =>
    rw [unsignedOfContents, if_pos hfirst]
    simp [Bytes.toNat]
  | cons second rest =>
    have hne : first ≠ 0 := hminimal.resolve_left (List.cons_ne_nil _ _)
    rw [unsignedOfContents, if_pos ⟨hfirst, fun h => hne h.1⟩]

theorem unsignedOfContents_unsignedContents (n : Nat) :
    unsignedOfContents (unsignedContents n) = some n := by
  by_cases hn : n = 0
  · subst hn
    rfl
  obtain ⟨first, rest, hs, hfirst⟩ := exists_shortest_eq_cons hn
  have hvalue : toNat (first :: rest) = n := by rw [← hs, toNat_shortest]
  unfold unsignedContents
  rw [hs]
  simp only
  split
  · next hlow => rw [unsignedOfContents_of_lt hlow (.inr hfirst), hvalue]
  · next hhigh =>
    rw [unsignedOfContents, if_pos ⟨by decide, fun h => hhigh h.2⟩, toNat_zero_cons, hvalue]

theorem length_unsignedContents_le {n k : Nat} (hk : 0 < k) (h : n < 256 ^ k) :
    (unsignedContents n).length ≤ k + 1 := by
  have hle := length_shortest_le hk h
  unfold unsignedContents
  split
  · next hs =>
    rw [hs] at hle
    split <;> simp only [List.length_cons] at hle ⊢ <;> omega
  · exact Nat.zero_le _

theorem length_unsigned_le {n k : Nat} (hk : 0 < k) (h : n < 256 ^ k) :
    (unsigned n).length ≤ 2 * k + 5 := by
  have hcontents := length_unsignedContents_le hk h
  have helement := length_element_le Tag.integer (unsignedContents n)
  unfold unsigned
  omega

theorem readUnsigned_unsigned {n : Nat} (h : (unsignedContents n).length < lengthLimit)
    (rest : Bytes) : readUnsigned (unsigned n ++ rest) = some (n, rest) := by
  unfold readUnsigned
  unfold unsigned
  rw [read_element (by decide) h]
  simp only [bind, Option.bind, unsignedOfContents_unsignedContents, pure]

theorem unsigneds_flatten {ns : List Nat}
    (h : ∀ n ∈ ns, (unsignedContents n).length < lengthLimit) :
    unsigneds ns.length (ns.map unsigned).flatten = some ns := by
  induction ns with
  | nil => rfl
  | cons n ns ih =>
    obtain ⟨hn, hns⟩ := List.forall_mem_cons.mp h
    rw [List.length_cons, List.map_cons, List.flatten_cons, unsigneds, readUnsigned_unsigned hn]
    simp only [bind, Option.bind, ih hns, pure]

theorem length_flatten_unsigned_le {ns : List Nat} {k : Nat} (hk : 0 < k)
    (h : ∀ n ∈ ns, n < 256 ^ k) :
    (ns.map unsigned).flatten.length ≤ ns.length * (2 * k + 5) := by
  induction ns with
  | nil => exact Nat.zero_le _
  | cons n ns ih =>
    obtain ⟨hn, hns⟩ := List.forall_mem_cons.mp h
    have hfirst := length_unsigned_le hk hn
    have hrest := ih hns
    rw [List.map_cons, List.flatten_cons, List.length_append, List.length_cons, Nat.succ_mul]
    omega

/-- The numbers of a sequence are read back. -/
theorem exists_unsigneds_sequence {ns : List Nat} {count k : Nat} (hcount : ns.length = count)
    (hk : 0 < k) (h : ∀ n ∈ ns, n < 256 ^ k) (hlimit : k + count * (2 * k + 5) < lengthLimit) :
    ∃ contents, whole Tag.sequence (sequence (ns.map unsigned)) = some contents ∧
      unsigneds count contents = some ns := by
  subst hcount
  have hlength := length_flatten_unsigned_le hk h
  refine ⟨_, whole_sequence (by omega), unsigneds_flatten fun n hn => ?_⟩
  have hn' := length_unsignedContents_le hk (h n hn)
  have hpos : 0 < ns.length := List.length_pos_of_mem hn
  have hmul : 2 * k + 5 ≤ ns.length * (2 * k + 5) := Nat.le_mul_of_pos_left _ hpos
  omega

/-! ### Bit strings -/

theorem bitsOfContents_zero (bytes : Bytes) : bitsOfContents (0x00 :: bytes) = some (0, bytes) := by
  unfold bitsOfContents
  simp only
  split
  · next h => rw [List.getLast?_eq_none_iff.mp h]; rfl
  · next last h =>
    rw [if_pos]
    · rfl
    · exact ⟨by decide, by simp [Nat.mod_one]⟩

end Der

theorem ObjectIdentifier.read_rsaEncryption (rest : Bytes) :
    read (encode rsaEncryption ++ rest) = some (rsaEncryption, rest) := by
  have hcontents : ofContents rsaEncryption.contents = some rsaEncryption := by decide
  unfold read
  unfold encode
  rw [Der.read_element (by decide) (by decide)]
  simp only [bind, Option.bind, hcontents, pure]

end Rs256Cose.Asn1
