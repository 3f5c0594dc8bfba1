import Mathlib
import Rs256Cose.Bytes

/-!
# Numbers in bytes

A byte string of a given width spells a number below the power of 256 (`toNat_lt`), and each such
number is read back as it was written (`toNat_ofNat`). In the fewest bytes every number is read
back (`toNat_shortest`), only zero begins with a zero byte (`exists_shortest_eq_cons`), and no other
byte string spells the number as briefly (`isShortest_iff`).
-/

namespace Rs256Cose.Bytes

theorem toNat_lt (bs : Bytes) : toNat bs < 256 ^ bs.length := by
  induction bs using concat_induction with
  | nil => decide
  | concat bs b ih =>
    have hb := b.toNat_lt
    rw [toNat_concat, List.length_append, List.length_singleton, Nat.pow_succ]
    omega

theorem toNat_cons (b : UInt8) (bs : Bytes) :
    toNat (b :: bs) = b.toNat * 256 ^ bs.length + toNat bs := by
  induction bs using concat_induction with
  | nil => simp [toNat]
  | concat bs c ih =>
    rw [← List.cons_append, toNat_concat, toNat_concat, ih, List.length_append,
      List.length_singleton, pow_succ]
    ring

theorem toNat_ofNat {width n : Nat} (h : n < 256 ^ width) : toNat (ofNat width n) = n := by
  induction width generalizing n with
  | zero => simp only [Nat.pow_zero, Nat.lt_one_iff] at h; subst h; rfl
  | succ width ih =>
    have hq : n / 256 < 256 ^ width := by rw [Nat.pow_succ] at h; omega
    rw [ofNat, toNat_concat, ih hq, UInt8.toNat_ofNat']
    omega

/-- Byte strings of one width are told apart by the numbers that they spell. -/
theorem eq_of_toNat_eq {a b : Bytes} (hlength : a.length = b.length) (h : toNat a = toNat b) :
    a = b := by
  rw [← ofNat_toNat a, hlength, h, ofNat_toNat]

/-! ### The fewest bytes -/

/-- The numbers of `k` bytes are those of `8 * k` bits. -/
theorem pow_byte (k : Nat) : 256 ^ k = 2 ^ (8 * k) := by
  rw [pow_mul]
  rfl

theorem lt_two_pow_bitLength (n : Nat) : n < 2 ^ bitLength n := by
  unfold bitLength
  split
  · next h => simp [h]
  · exact Nat.lt_log2_self

theorem two_pow_le_of_ne_zero {n : Nat} (h : n ≠ 0) : 2 ^ (bitLength n - 1) ≤ n := by
  unfold bitLength
  rw [if_neg h, Nat.add_sub_cancel]
  exact Nat.log2_self_le h

theorem bitLength_le_iff {n k : Nat} : bitLength n ≤ k ↔ n < 2 ^ k := by
  refine ⟨?_, ?_⟩
  · intro h
    exact lt_of_lt_of_le (lt_two_pow_bitLength n) (Nat.pow_le_pow_right (by decide) h)
  · intro h
    by_cases hn : n = 0
    · simp [bitLength, hn]
    · have hlt := lt_of_le_of_lt (two_pow_le_of_ne_zero hn) h
      rw [Nat.pow_lt_pow_iff_right (by decide)] at hlt
      omega

theorem length_shortest (n : Nat) : (shortest n).length = max 1 ((bitLength n + 7) / 8) := by
  unfold shortest
  rw [length_ofNat]

/-- A number is written in `k` bytes if it is below the power of 256. -/
theorem length_shortest_le {n k : Nat} (hk : 0 < k) (h : n < 256 ^ k) :
    (shortest n).length ≤ k := by
  have hbits : bitLength n ≤ 8 * k := bitLength_le_iff.mpr (pow_byte k ▸ h)
  rw [length_shortest]
  omega

@[simp] theorem toNat_shortest (n : Nat) : toNat (shortest n) = n := by
  apply toNat_ofNat
  have hle : 2 ^ bitLength n ≤ 2 ^ (8 * max 1 ((bitLength n + 7) / 8)) :=
    Nat.pow_le_pow_right (by decide) (by omega)
  rw [← pow_byte] at hle
  exact lt_of_lt_of_le (lt_two_pow_bitLength n) hle

theorem toNat_zero_cons (bs : Bytes) : toNat (0 :: bs) = toNat bs := rfl

/-- The first byte of a positive number in the fewest bytes is not zero. -/
theorem exists_shortest_eq_cons {n : Nat} (h : n ≠ 0) :
    ∃ first rest, shortest n = first :: rest ∧ first ≠ 0 := by
  cases hs : shortest n with
  | nil =>
    have hlength := length_shortest n
    rw [hs, List.length_nil] at hlength
    omega
  | cons first rest =>
    refine ⟨first, rest, rfl, ?_⟩
    rintro rfl
    -- behind a zero byte the rest would spell the number in too few bytes
    have hvalue : toNat rest = n := by rw [← toNat_zero_cons, ← hs, toNat_shortest]
    have hlength := length_shortest n
    have hrest := toNat_lt rest
    have hlow := two_pow_le_of_ne_zero h
    rw [hs, List.length_cons] at hlength
    have hle : 256 ^ rest.length ≤ 2 ^ (bitLength n - 1) := by
      rw [pow_byte]
      apply Nat.pow_le_pow_right (by decide)
      have hpos : 0 < bitLength n := by rw [bitLength, if_neg h]; omega
      omega
    omega

/-- A number between two powers of 256 has as many bytes as the greater one has zeros. -/
theorem length_shortest_eq {n k : Nat} (hlow : 256 ^ k ≤ n) (hhigh : n < 256 ^ (k + 1)) :
    (shortest n).length = k + 1 := by
  rw [pow_byte] at hlow hhigh
  have hle : bitLength n ≤ 8 * (k + 1) := bitLength_le_iff.mpr hhigh
  have hlt : ¬ bitLength n ≤ 8 * k := fun h => absurd (bitLength_le_iff.mp h) (Nat.not_lt.mpr hlow)
  rw [length_shortest]
  omega

/-- The highest bit of the first byte is clear exactly if the bits do not fill all bytes. -/
theorem lt_0x80_iff_of_shortest {n : Nat} {first : UInt8} {rest : Bytes}
    (h : shortest n = first :: rest) : first < 0x80 ↔ bitLength n ≤ 8 * rest.length + 7 := by
  have hvalue : n = first.toNat * 256 ^ rest.length + toNat rest := by
    rw [← toNat_cons, ← h, toNat_shortest]
  have hrest := toNat_lt rest
  have hbound : 2 ^ (8 * rest.length + 7) = 128 * 256 ^ rest.length := by
    rw [pow_add, pow_byte, Nat.mul_comm]
    rfl
  rw [bitLength_le_iff, hbound, UInt8.lt_iff_toNat_lt]
  refine ⟨?_, ?_⟩
  · intro hfirst
    have hle : (first.toNat + 1) * 256 ^ rest.length ≤ 128 * 256 ^ rest.length :=
      Nat.mul_le_mul_right _ hfirst
    rw [Nat.succ_mul] at hle
    omega
  · intro hn
    have hlt : first.toNat * 256 ^ rest.length < 128 * 256 ^ rest.length := by omega
    exact lt_of_mul_lt_mul_right hlt (Nat.zero_le _)

/-! ### The only spelling -/

/-- A byte string that spells a number and is not empty, and none of those is shorter. -/
structure IsShortest (bs : Bytes) (n : Nat) : Prop where
  ne_nil : bs ≠ []
  toNat_eq : toNat bs = n
  length_le : ∀ other, other ≠ [] → toNat other = n → bs.length ≤ other.length

theorem shortest_ne_nil (n : Nat) : shortest n ≠ [] := by
  apply List.ne_nil_of_length_pos
  rw [length_shortest]
  omega

theorem isShortest_shortest (n : Nat) : IsShortest (shortest n) n := by
  refine ⟨shortest_ne_nil n, toNat_shortest n, ?_⟩
  rintro other hother rfl
  exact length_shortest_le (List.length_pos_iff.mpr hother) (toNat_lt other)

theorem isShortest_iff {bs : Bytes} {n : Nat} : IsShortest bs n ↔ bs = shortest n := by
  refine ⟨?_, ?_⟩
  · intro h
    have hshortest := isShortest_shortest n
    have hle := h.length_le _ hshortest.ne_nil hshortest.toNat_eq
    have hge := hshortest.length_le _ h.ne_nil h.toNat_eq
    exact eq_of_toNat_eq (Nat.le_antisymm hle hge) (h.toNat_eq.trans hshortest.toNat_eq.symm)
  · rintro rfl
    exact isShortest_shortest n

theorem shortest_injective : Function.Injective shortest :=
  Function.LeftInverse.injective toNat_shortest

theorem head?_shortest_eq_zero_iff {n : Nat} : (shortest n).head? = some 0 ↔ n = 0 := by
  refine ⟨?_, ?_⟩
  · intro h
    by_contra hn
    obtain ⟨first, rest, hs, hfirst⟩ := exists_shortest_eq_cons hn
    rw [hs] at h
    exact hfirst (Option.some.inj h)
  · rintro rfl
    rfl

/-- Two numbers in the fewest bytes, one behind the other, are told apart if it is known where the
second begins. -/
theorem shortest_append_inj {m m' n n' : Nat}
    (hlength : (shortest m).length = (shortest m').length) :
    shortest m ++ shortest n = shortest m' ++ shortest n' ↔ m = m' ∧ n = n' := by
  refine ⟨?_, ?_⟩
  · intro h
    obtain ⟨hm, hn⟩ := List.append_inj h hlength
    exact ⟨shortest_injective hm, shortest_injective hn⟩
  · rintro ⟨rfl, rfl⟩
    rfl

end Rs256Cose.Bytes
