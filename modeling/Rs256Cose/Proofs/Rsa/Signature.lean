import Mathlib
import Rs256Cose.Proofs.Numbers
import Rs256Cose.Proofs.Rsa.Power
import Rs256Cose.Rsa.Pkcs1

/-!
# Signatures verify

`PublicKey.IsSignature` says what a signature of a digest is: a byte string of the full width that
spells a number below the modulus whose public power is the padded digest. `verifies` decides it for
every modulus above zero and of at most the width of a signature (`verifies_iff`), and no byte
string is a signature of two digests (`IsSignature.digest_eq`). When the factors of a private key
are prime the two powers undo each other (`pow_mul_mod`), so what the key signs is a signature under
its public half (`isSignature_sign`) and the only one of its digest (`IsSignature.eq_sign`).
-/

namespace Rs256Cose.Rsa

open Profile Bytes

/-! ### What a signature is -/

/-- The signatures of RFC 8017, section 8.2.2, for a padded digest. -/
structure PublicKey.IsSignature (key : PublicKey) (digest : Digest) (signature : Bytes) : Prop where
  length_eq : signature.length = signatureLength
  toNat_lt : signature.toNat < key.modulus
  pow_mod_eq : signature.toNat ^ key.exponent % key.modulus = (block digest).toNat

theorem ofNat_eq_iff {width n : Nat} {bs : Bytes} (hn : n < 256 ^ width) (hbs : bs.length = width) :
    Bytes.ofNat width n = bs ↔ n = bs.toNat := by
  subst hbs
  refine ⟨?_, ?_⟩
  · rintro h
    rw [← h, toNat_ofNat hn]
  · rintro rfl
    exact ofNat_toNat bs

theorem PublicKey.verifies_iff {key : PublicKey} {digest : Digest} {signature : Bytes}
    (hpos : 0 < key.modulus) (hmodulus : key.modulus ≤ 256 ^ signatureLength) :
    key.verifies digest signature = true ↔ key.IsSignature digest signature := by
  have hpower : signature.toNat ^ key.exponent % key.modulus < 256 ^ signatureLength :=
    lt_of_lt_of_le (Nat.mod_lt _ hpos) hmodulus
  simp only [verifies, powMod_eq, Bool.and_eq_true, decide_eq_true_eq, and_assoc,
    ofNat_eq_iff hpower (length_block digest)]
  exact ⟨fun ⟨h1, h2, h3⟩ => ⟨h1, h2, h3⟩, fun h => ⟨h.1, h.2, h.3⟩⟩

/-! ### The two powers -/

/-- Modulo a prime, an exponent that is one modulo the prime less one leaves every number alone. -/
theorem pow_modEq_self {p k m : Nat} (hp : p.Prime) (hk : k % (p - 1) = 1 % (p - 1))
    (hpos : k ≠ 0) : m ^ k ≡ m [MOD p] := by
  have : Fact p.Prime := ⟨hp⟩
  obtain ⟨c, hc⟩ : p - 1 ∣ k - 1 := (Nat.modEq_iff_dvd' (by omega)).mp hk.symm
  obtain rfl : k = 1 + (p - 1) * c := by omega
  rw [← ZMod.natCast_eq_natCast_iff]
  push_cast
  -- a multiple of the prime is zero on both sides, any other number has Fermat's theorem
  by_cases hm : (m : ZMod p) = 0
  · rw [hm, zero_pow (by omega)]
  · rw [pow_add, pow_mul, ZMod.pow_card_sub_one_eq_one hm, one_pow, mul_one, pow_one]

namespace PrivateKey

variable {key : PrivateKey}

theorem modulus_pos (key : PrivateKey) : 0 < key.modulus := by
  rw [← key.modulus_eq]
  exact Nat.mul_pos (Nat.zero_lt_of_lt key.one_lt_prime1) (Nat.zero_lt_of_lt key.one_lt_prime2)

theorem modulus_odd (key : PrivateKey) : key.modulus % 2 = 1 := by
  rw [← key.modulus_eq]
  exact Nat.odd_iff.mp
    ((Nat.odd_iff.mpr key.prime1_odd).mul (Nat.odd_iff.mpr key.prime2_odd))

theorem prime1_ne_prime2 (key : PrivateKey) : key.prime1 ≠ key.prime2 := by
  intro h
  have hinverse := key.coefficient_inverse
  rw [← h, Nat.mul_mod_left] at hinverse
  cases hinverse

/-- Two different factors cannot both be two, so the exponents do not multiply to zero. -/
theorem exponent_mul_privateExponent_ne_zero (key : PrivateKey) :
    key.exponent * key.privateExponent ≠ 0 := by
  intro h
  have h1 := key.inverse1
  have h2 := key.inverse2
  have hne := key.prime1_ne_prime2
  have hp := key.one_lt_prime1
  have hq := key.one_lt_prime2
  rw [h, Nat.zero_mod] at h1 h2
  have hp2 : key.prime1 - 1 = 1 := Nat.dvd_one.mp (Nat.dvd_of_mod_eq_zero h1.symm)
  have hq2 : key.prime2 - 1 = 1 := Nat.dvd_one.mp (Nat.dvd_of_mod_eq_zero h2.symm)
  omega

/-- Both powers together leave every number alone modulo the two primes. -/
theorem pow_mul_mod (hp : key.prime1.Prime) (hq : key.prime2.Prime) (m : Nat) :
    m ^ (key.exponent * key.privateExponent) % key.modulus = m % key.modulus := by
  have hne := key.exponent_mul_privateExponent_ne_zero
  have hcoprime : key.prime1.Coprime key.prime2 :=
    (Nat.coprime_primes hp hq).mpr key.prime1_ne_prime2
  rw [← key.modulus_eq]
  exact (Nat.modEq_and_modEq_iff_modEq_mul hcoprime).mp
    ⟨pow_modEq_self hp key.inverse1 hne, pow_modEq_self hq key.inverse2 hne⟩

/-- The public power undoes the private one. -/
theorem pow_pow_mod (hp : key.prime1.Prime) (hq : key.prime2.Prime) (m : Nat) :
    (m ^ key.privateExponent % key.modulus) ^ key.exponent % key.modulus = m % key.modulus := by
  rw [← Nat.pow_mod, ← pow_mul, Nat.mul_comm, pow_mul_mod hp hq]

/-- The private power undoes the public one. -/
theorem pow_mod_pow (hp : key.prime1.Prime) (hq : key.prime2.Prime) (m : Nat) :
    (m ^ key.exponent % key.modulus) ^ key.privateExponent % key.modulus = m % key.modulus := by
  rw [← Nat.pow_mod, ← pow_mul, pow_mul_mod hp hq]

end PrivateKey

/-! ### What a key signs -/

/-- The block begins with a zero byte, so it spells a number below a modulus of full width. -/
theorem toNat_block_lt (digest : Digest) : (block digest).toNat < 256 ^ 255 := by
  have hlength := length_block digest
  have hblock : ∃ rest, block digest = 0x00 :: rest := ⟨_, rfl⟩
  obtain ⟨rest, hrest⟩ := hblock
  have hwidth : rest.length = 255 := by
    rw [hrest, List.length_cons, show signatureLength = 256 from rfl] at hlength
    omega
  have hlt := Bytes.toNat_lt rest
  rw [hrest, toNat_zero_cons]
  rwa [hwidth] at hlt

/-- The number that a signature spells is the private power of the block. -/
theorem PrivateKey.toNat_sign (key : PrivateKey) (hhigh : key.modulus ≤ 256 ^ signatureLength)
    (digest : Digest) : (key.sign digest).bytes.toNat =
      (block digest).toNat ^ key.privateExponent % key.modulus := by
  have hpos := key.modulus_pos
  have hlt := Nat.mod_lt ((block digest).toNat ^ key.privateExponent) hpos
  have hbytes : (key.sign digest).bytes = Bytes.ofNat signatureLength
      (powMod (block digest).toNat key.privateExponent key.modulus) := rfl
  rw [hbytes, powMod_eq, toNat_ofNat (lt_of_lt_of_le hlt hhigh)]

theorem PrivateKey.isSignature_sign {key : PrivateKey} (hp : key.prime1.Prime)
    (hq : key.prime2.Prime) (hlow : 256 ^ 255 ≤ key.modulus)
    (hhigh : key.modulus ≤ 256 ^ signatureLength) (digest : Digest) :
    key.toPublicKey.IsSignature digest (key.sign digest).bytes := by
  have hpos := key.modulus_pos
  have hlt := Nat.mod_lt ((block digest).toNat ^ key.privateExponent) hpos
  have hvalue := key.toNat_sign hhigh digest
  have hblock : (block digest).toNat < key.modulus := lt_of_lt_of_le (toNat_block_lt digest) hlow
  refine ⟨(key.sign digest).length_eq, hvalue ▸ hlt, ?_⟩
  rw [hvalue, pow_pow_mod hp hq, Nat.mod_eq_of_lt hblock]

/-! ### One signature for each digest -/

/-- Under prime factors a digest has no signature but the one that the private key makes. -/
theorem PublicKey.IsSignature.eq_sign {key : PrivateKey} {digest : Digest} {signature : Bytes}
    (h : key.toPublicKey.IsSignature digest signature) (hp : key.prime1.Prime)
    (hq : key.prime2.Prime) (hhigh : key.modulus ≤ 256 ^ signatureLength) :
    signature = (key.sign digest).bytes := by
  apply eq_of_toNat_eq
  · rw [h.length_eq, (key.sign digest).length_eq]
  · calc signature.toNat = signature.toNat % key.modulus := (Nat.mod_eq_of_lt h.toNat_lt).symm
      _ = (signature.toNat ^ key.exponent % key.modulus) ^ key.privateExponent % key.modulus :=
        (PrivateKey.pow_mod_pow hp hq signature.toNat).symm
      _ = (block digest).toNat ^ key.privateExponent % key.modulus := by rw [h.pow_mod_eq]
      _ = (key.sign digest).bytes.toNat := (key.toNat_sign hhigh digest).symm

theorem block_injective {digest digest' : Digest} (h : block digest = block digest') :
    digest = digest' := by
  have hbytes : digest.bytes = digest'.bytes := List.append_cancel_left h
  obtain ⟨bytes, hlength⟩ := digest
  obtain ⟨bytes', hlength'⟩ := digest'
  obtain rfl : bytes = bytes' := hbytes
  rfl

/-- Whatever the key, a signature is one of a single digest: its public power is the whole block. -/
theorem PublicKey.IsSignature.digest_eq {key : PublicKey} {digest digest' : Digest}
    {signature : Bytes} (h : key.IsSignature digest signature)
    (h' : key.IsSignature digest' signature) : digest = digest' := by
  apply block_injective
  apply eq_of_toNat_eq
  · rw [length_block, length_block]
  · rw [← h.pow_mod_eq, h'.pow_mod_eq]

end Rs256Cose.Rsa
