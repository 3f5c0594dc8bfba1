import Mathlib
import Rs256Cose.Proofs.Asn1.Length
import Rs256Cose.Proofs.Keys.Public

/-!
# The length of an exported key

Of the SubjectPublicKeyInfo of a key of the required size, only the INTEGER of the exponent varies
in length (`length_encodePublicInfo`). So the exponent alone decides whether the key can be exported
(`exportPublicKey_isOk_iff`), and a key that can be exported has an exponent far below its modulus.
-/

namespace Rs256Cose.Keys

open Asn1 Rsa Bytes Profile

variable {key : PublicKey} {der : Bytes}

/-! ### The length of a public key -/

theorem length_unsigned_modulus (h : key.size = requiredBits) :
    (Der.unsigned key.modulus).length = 261 := by
  have hbits : bitLength key.modulus = 2048 := h
  rw [Der.unsigned, Der.length_element, Der.length_unsignedContents, hbits]
  exact Der.elementLength_twoBytes (by decide) (by decide)

/-- Three elements stand around the INTEGER of the exponent. -/
theorem length_encodePublicInfo_eq (h : key.size = requiredBits) :
    (encodePublicInfo key).length = Der.elementLength (15 + Der.elementLength
      (1 + Der.elementLength (261 + (Der.unsigned key.exponent).length))) := by
  have halgorithm : rsaAlgorithm.length = 15 := by decide
  simp only [encodePublicInfo, encodeRsaPublicKey, Der.sequence, Der.bitString, Der.length_element,
    List.flatten_cons, List.flatten_nil, List.append_nil, List.length_append, List.length_cons,
    halgorithm, length_unsigned_modulus h, Nat.add_comm 1]

/-- Each of the three takes four bytes for its tag and length, or more around a long exponent. -/
theorem length_encodePublicInfo_ge (h : key.size = requiredBits) :
    289 + (Der.unsigned key.exponent).length ≤ (encodePublicInfo key).length := by
  rw [length_encodePublicInfo_eq h]
  have hnumbers := Der.add_four_le_elementLength
    (n := 261 + (Der.unsigned key.exponent).length) (by omega)
  generalize Der.elementLength (261 + (Der.unsigned key.exponent).length) = n at hnumbers ⊢
  have hbits := Der.add_four_le_elementLength (n := 1 + n) (by omega)
  have hinfo := Der.add_four_le_elementLength (n := 15 + Der.elementLength (1 + n)) (by omega)
  omega

theorem length_encodePublicInfo (h : key.size = requiredBits)
    (hshort : (Der.unsigned key.exponent).length ≤ 23) :
    (encodePublicInfo key).length = 289 + (Der.unsigned key.exponent).length := by
  rw [length_encodePublicInfo_eq h,
    Der.elementLength_twoBytes (n := 261 + (Der.unsigned key.exponent).length) (by omega)
      (by omega),
    Der.elementLength_twoBytes (n := 1 + _) (by omega) (by omega),
    Der.elementLength_twoBytes (by omega) (by omega)]
  omega

/-! ### The exponent -/

/-- An exponent below `2 ^ 167` has at most 21 bytes, sign included, and a greater one has more. -/
theorem length_unsigned_exponent_le_iff :
    (Der.unsigned key.exponent).length ≤ 23 ↔ key.exponent < 2 ^ 167 := by
  have hcontents := Der.length_unsignedContents key.exponent
  rw [← bitLength_le_iff, Der.unsigned, Der.length_element]
  refine ⟨?_, ?_⟩
  · intro h
    have hge := Der.add_two_le_elementLength (Der.unsignedContents key.exponent).length
    omega
  · intro h
    rw [Der.elementLength_short (by omega)]
    omega

theorem length_unsigned_exponent (h : key.exponent < 2 ^ 167) :
    (Der.unsigned key.exponent).length = bitLength key.exponent / 8 + 3 := by
  have hbits := bitLength_le_iff.mpr h
  have hcontents := Der.length_unsignedContents key.exponent
  rw [Der.unsigned, Der.length_element, Der.elementLength_short (by omega), hcontents]

/-! ### Export -/

theorem exportPublicKey_isOk_iff (h : key.size = requiredBits) :
    (∃ der, exportPublicKey key = .ok der) ↔ key.exponent < 2 ^ 167 := by
  have hmax : maxKeyLength = 312 := rfl
  rw [← length_unsigned_exponent_le_iff]
  refine ⟨?_, ?_⟩
  · rintro ⟨der, hexport⟩
    obtain ⟨rfl, hle⟩ := exportPublicKey_eq_ok_iff.mp hexport
    have hge := length_encodePublicInfo_ge h
    omega
  · intro hle
    have hlength := length_encodePublicInfo h hle
    exact ⟨_, exportPublicKey_eq_ok_iff.mpr ⟨rfl, by omega⟩⟩

/-- A key that is not exported is refused for its length. -/
theorem exportPublicKey_of_le (h : key.size = requiredBits) (hle : 2 ^ 167 ≤ key.exponent) :
    exportPublicKey key = .error (.exportTooLong (encodePublicInfo key).length) := by
  cases hexport : exportPublicKey key with
  | ok der => exact absurd ((exportPublicKey_isOk_iff h).mp ⟨der, hexport⟩) (Nat.not_lt.mpr hle)
  | error e =>
    rw [exportPublicKey] at hexport
    split_ifs at hexport
    exact hexport.symm

/-- The exponent of a private key that can be exported is far below its modulus. -/
theorem isProper_of_exportPublicKey {key : PrivateKey} (h : key.toPublicKey.size = requiredBits)
    (hexport : exportPublicKey key.toPublicKey = .ok der) : key.toPublicKey.IsProper := by
  obtain ⟨hlow, -⟩ := modulus_bounds h
  have hexponent := (exportPublicKey_isOk_iff h).mp ⟨der, hexport⟩
  have hlt : key.exponent < key.modulus :=
    lt_of_lt_of_le (lt_of_lt_of_le hexponent (by decide)) hlow
  exact ⟨key.exponent_odd, key.three_le_exponent, hlt⟩

end Rs256Cose.Keys
