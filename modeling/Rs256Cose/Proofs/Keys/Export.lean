import Mathlib
import Rs256Cose.Proofs.Keys.Length
import Rs256Cose.Proofs.Message.Validation

/-!
# Which keys can be embedded

The exponent alone decides whether a key of the required size can be exported, and an exported key
is never refused on the way into a message (`exportable_iff`).
-/

namespace Rs256Cose.Keys

open Rsa Bytes

variable {key : PublicKey}

/-- The exponent alone decides which keys of the required size can be exported, and how long their
DER is. What was exported is taken for the header of a message and for a draft, and after that
nothing fails for the length of the key. -/
theorem exportable_iff (hsize : key.size = requiredBits) :
    ((∃ der, exportPublicKey key = .ok der) ↔ key.exponent < 2 ^ 167) ∧
    (2 ^ 167 ≤ key.exponent →
      exportPublicKey key = .error (.exportTooLong (encodePublicInfo key).length)) ∧
    ∀ der, exportPublicKey key = .ok der →
      der = encodePublicInfo key ∧ der.length = 292 + bitLength key.exponent / 8 ∧
      ∃ embedded, EmbeddedKey.ofSupplied (.bytes der) = .ok embedded ∧ embedded.der = der ∧
        ∀ payload, ∃ d, Draft.ofSupplied (.bytes payload) (.bytes der) = .ok d ∧
          d.payload = payload ∧ d.key = some embedded ∧
          (∀ signer n, d.signWith signer ≠ .error (.keyTooLong n)) ∧
          (payload.length < 2 ^ 64 → ∀ signingKey, ∃ wire, d.sign signingKey = .ok wire) := by
  refine ⟨exportPublicKey_isOk_iff hsize, exportPublicKey_of_le hsize, ?_⟩
  intro der hexport
  have hlt := (exportPublicKey_isOk_iff hsize).mp ⟨der, hexport⟩
  obtain ⟨rfl, hmax⟩ := exportPublicKey_eq_ok_iff.mp hexport
  let embedded : EmbeddedKey := ⟨encodePublicInfo key, hmax⟩
  refine ⟨rfl, ?_, embedded, EmbeddedKey.ofSupplied_bytes embedded, rfl, ?_⟩
  · rw [length_encodePublicInfo hsize (length_unsigned_exponent_le_iff.mpr hlt),
      length_unsigned_exponent hlt]
    omega
  · intro payload
    refine ⟨⟨payload, some embedded⟩, Draft.ofSupplied_bytes embedded, rfl, rfl,
      Draft.signWith_ne_keyTooLong _, ?_⟩
    intro hlim signingKey
    exact ⟨_, Draft.sign_eq hlim⟩

/-- The key at hand has the usual exponent 65537. -/
theorem exportable_iff_specimen :
    specimen.toPublicKey.exponent < 2 ^ 167 ∧ ∃ der d,
      exportPublicKey specimen.toPublicKey = .ok der ∧ der.length = 294 ∧
      Draft.ofSupplied (.bytes [0x7b, 0x7d]) (.bytes der) = .ok d ∧
      ∃ wire, d.sign specimen = .ok wire := by
  obtain ⟨hiff, -, hexported⟩ := exportable_iff size_specimen
  have hlt := hiff.mp ⟨_, exportPublicKey_specimen⟩
  obtain ⟨der, hexport⟩ := hiff.mpr hlt
  obtain ⟨-, hlength, embedded, -, -, hdrafts⟩ := hexported der hexport
  obtain ⟨d, hdraft, -, -, -, hsign⟩ := hdrafts [0x7b, 0x7d]
  refine ⟨hlt, der, d, hexport, hlength.trans ?_, hdraft, hsign (by decide) specimen⟩
  rfl

end Rs256Cose.Keys
