import Mathlib
import Rs256Cose.Text.Base64

/-!
# Base64 read back

What is encoded is decoded to the same bytes (`decode_encode`), and only signs of the alphabet and
the padding are written (`mem_encode`).
-/

namespace Rs256Cose.Text.Base64

/-! ### Signs -/

theorem sign_ne_padding : ∀ n < 64, sign n ≠ padding := by decide

/-- The bytes that stand in base64. -/
def IsSign (b : UInt8) : Prop := (∃ n < 64, b = sign n) ∨ b = padding

theorem isSign_sign {n : Nat} (h : n < 64) : IsSign (sign n) := .inl ⟨n, h, rfl⟩

/-- A property of all signs is one of 65 bytes. -/
theorem IsSign.of_forall {p : UInt8 → Prop} {b : UInt8} (hb : IsSign b)
    (hsign : ∀ n < 64, p (sign n)) (hpadding : p padding) : p b := by
  rcases hb with ⟨n, hn, rfl⟩ | rfl
  · exact hsign n hn
  · exact hpadding

theorem mem_encode {bytes : Bytes} : ∀ b ∈ encode bytes, IsSign b := by
  induction bytes using encode.induct with
  | case1 => simp [encode]
  | case2 a =>
    have ha := a.toNat_lt
    simp only [encode, List.forall_mem_cons]
    exact ⟨isSign_sign (by omega), isSign_sign (by omega), .inr rfl, .inr rfl, by simp⟩
  | case3 a b =>
    have ha := a.toNat_lt
    have hb := b.toNat_lt
    simp only [encode, List.forall_mem_cons]
    exact ⟨isSign_sign (by omega), isSign_sign (by omega), isSign_sign (by omega), .inr rfl,
      by simp⟩
  | case4 a b c rest ih =>
    have ha := a.toNat_lt
    have hb := b.toNat_lt
    have hc := c.toNat_lt
    simp only [encode, List.forall_mem_cons]
    exact ⟨isSign_sign (by omega), isSign_sign (by omega), isSign_sign (by omega),
      isSign_sign (by omega), ih⟩

/-! ### Groups -/

/-- A byte is known by the number that its bits spell. -/
theorem ofNat_eq_of_eq {n : Nat} {b : UInt8} (h : n = b.toNat) : UInt8.ofNat n = b := by
  rw [h, UInt8.ofNat_toNat]

section

variable (a b c : UInt8)

theorem decodeOne_encode :
    decodeOne (sign (a.toNat / 4)) (sign (a.toNat % 4 * 16)) = some [a] := by
  have ha := a.toNat_lt
  have hvalue : UInt8.ofNat (4 * (a.toNat / 4) + a.toNat % 4 * 16 / 16) = a :=
    ofNat_eq_of_eq (by omega)
  simp only [decodeOne, value?_sign (a.toNat / 4) (by omega),
    value?_sign (a.toNat % 4 * 16) (by omega), bind, Option.bind, Nat.mul_mod_left, if_true, hvalue]

theorem decodeTwo_encode : decodeTwo (sign (a.toNat / 4))
    (sign (a.toNat % 4 * 16 + b.toNat / 16)) (sign (b.toNat % 16 * 4)) = some [a, b] := by
  have ha := a.toNat_lt
  have hb := b.toNat_lt
  have hfirst : UInt8.ofNat (4 * (a.toNat / 4) + (a.toNat % 4 * 16 + b.toNat / 16) / 16) = a :=
    ofNat_eq_of_eq (by omega)
  have hsecond : UInt8.ofNat
      ((a.toNat % 4 * 16 + b.toNat / 16) % 16 * 16 + b.toNat % 16 * 4 / 4) = b :=
    ofNat_eq_of_eq (by omega)
  simp only [decodeTwo, value?_sign (a.toNat / 4) (by omega),
    value?_sign (a.toNat % 4 * 16 + b.toNat / 16) (by omega),
    value?_sign (b.toNat % 16 * 4) (by omega), bind, Option.bind, Nat.mul_mod_left, if_true,
    hfirst, hsecond]

theorem decodeThree_encode : decodeThree (sign (a.toNat / 4))
    (sign (a.toNat % 4 * 16 + b.toNat / 16)) (sign (b.toNat % 16 * 4 + c.toNat / 64))
    (sign (c.toNat % 64)) = some [a, b, c] := by
  have ha := a.toNat_lt
  have hb := b.toNat_lt
  have hc := c.toNat_lt
  have hfirst : UInt8.ofNat (4 * (a.toNat / 4) + (a.toNat % 4 * 16 + b.toNat / 16) / 16) = a :=
    ofNat_eq_of_eq (by omega)
  have hsecond : UInt8.ofNat ((a.toNat % 4 * 16 + b.toNat / 16) % 16 * 16 +
      (b.toNat % 16 * 4 + c.toNat / 64) / 4) = b := ofNat_eq_of_eq (by omega)
  have hthird : UInt8.ofNat ((b.toNat % 16 * 4 + c.toNat / 64) % 4 * 64 + c.toNat % 64) = c :=
    ofNat_eq_of_eq (by omega)
  simp only [decodeThree, value?_sign (a.toNat / 4) (by omega),
    value?_sign (a.toNat % 4 * 16 + b.toNat / 16) (by omega),
    value?_sign (b.toNat % 16 * 4 + c.toNat / 64) (by omega),
    value?_sign (c.toNat % 64) (by omega), bind, Option.bind, pure, hfirst, hsecond, hthird]

end

/-! ### The whole text -/

theorem decode_encode (bytes : Bytes) : decode (encode bytes) = some bytes := by
  induction bytes using encode.induct with
  | case1 => rfl
  | case2 a =>
    rw [encode, decode, if_neg (not_not.mpr rfl), if_neg (not_not.mpr rfl), decodeOne_encode]
  | case3 a b =>
    have hb : b.toNat % 16 * 4 < 64 := by omega
    rw [encode, decode, if_neg (not_not.mpr rfl), if_pos (sign_ne_padding _ hb), decodeTwo_encode]
  | case4 a b c rest ih =>
    have hc : c.toNat % 64 < 64 := by omega
    rw [encode]
    -- a last group is read by the rule for padded ones, which finds no padding
    cases hrest : encode rest with
    | nil =>
      rw [hrest] at ih
      obtain rfl : [] = rest := Option.some.inj ih
      rw [decode, if_pos (sign_ne_padding _ hc), decodeThree_encode]
    | cons next more =>
      rw [hrest] at ih
      rw [decode, decodeThree_encode, ih]
      · rfl
      · intro h
        exact List.cons_ne_nil _ _ h

end Rs256Cose.Text.Base64
