import Mathlib
import Rs256Cose.Proofs.Message.Decoding
import Rs256Cose.Proofs.Message.Verification

/-!
# How verification can end

A message is verified, refused by the decoder, or rejected for its key or its signature, unless the
key that decides is one that the library does not support (`verify_answers_iff`). Whatever else is
wrong with that key, it verifies nothing and the message is rejected.
-/

namespace Rs256Cose

open Profile Keys

/-- A result, or one of the refusals that a caller of verification is told of. -/
def Answered : Except VerifyError Verified → Prop
  | .ok _ | .error (.rejected _) => True
  | .error (.undecodable e) => e ≠ .beforeStart
  | .error (.unsignable _) | .error (.unsupported _) | .error .digestLength => False

/-- Of all files only that of a key that is not supported keeps a digest from being checked. -/
theorem verifyDigest_isOk_iff [KeyLibrary] {file signature : Bytes} {digest : Digest} :
    (∃ accepted, verifyDigest file digest.bytes signature = .ok accepted) ↔
      ∀ description, ¬ HoldsUnsupportedKey file description := by
  simp only [← loadPublicKey_eq_unsupported_iff, verifyDigest_bytes]
  cases loadPublicKey file with
  | ok key => simp
  | error e => cases e <;> simp

theorem trustedKey_ne_badSignature (embedded : EmbeddedKey) (trusted : Option Bytes) :
    trustedKey embedded trusted ≠ .error .badSignature := by
  cases trusted with
  | none =>
    unfold trustedKey
    split_ifs <;> rintro ⟨⟩
  | some trusted =>
    simp only [trustedKey]
    split_ifs <;> rintro ⟨⟩

section

variable [KeyLibrary] {data : Bytes} {m : Message} {trusted : Option Bytes}

theorem verify_of_not_permits (hdecode : Message.decode data = .ok m)
    (hpermits : ¬ Permits m.key.der trusted) :
    ∃ rejection, rejection ≠ .badSignature ∧
      verify data trusted = .error (.rejected rejection) := by
  cases hkey : trustedKey m.key trusted with
  | ok der => exact absurd (trustedKey_eq_ok_iff.mp hkey).1 hpermits
  | error rejection =>
    refine ⟨rejection, ?_, verify_eq_rejected hdecode hkey⟩
    rintro rfl
    exact trustedKey_ne_badSignature _ _ hkey

theorem answered_iff_of_permits (hdecode : Message.decode data = .ok m)
    (hpermits : Permits m.key.der trusted) :
    Answered (verify data trusted) ↔
      ∀ description, ¬ HoldsUnsupportedKey (trusted.getD m.key.der) description := by
  simp only [← loadPublicKey_eq_unsupported_iff, verify_of_permits hdecode hpermits]
  cases loadPublicKey (trusted.getD m.key.der) with
  | ok key => simp only; split_ifs <;> simp [Answered]
  | error e => cases e <;> simp [Answered]

/-- A key that is not supported stands in the way of an answer if it decides. -/
theorem verify_eq_unsupported_iff {description : String} :
    verify data trusted = .error (.unsupported description) ↔ ∃ m,
      Message.decode data = .ok m ∧ Permits m.key.der trusted ∧
      HoldsUnsupportedKey (trusted.getD m.key.der) description := by
  cases hdecode : Message.decode data with
  | error e => simp [verify_eq_undecodable hdecode]
  | ok m =>
    simp only [Except.ok.injEq, exists_eq_left']
    by_cases hpermits : Permits m.key.der trusted
    · rw [and_iff_right hpermits, ← loadPublicKey_eq_unsupported_iff,
        verify_of_permits hdecode hpermits]
      cases loadPublicKey (trusted.getD m.key.der) with
      | ok key => simp only; split_ifs <;> simp
      | error e => cases e <;> simp
    · obtain ⟨rejection, -, hverify⟩ := verify_of_not_permits hdecode hpermits
      simp [hverify, hpermits]

/-- Verification is refused by the decoder, rejected, or kept from an answer by a key that is not
supported. -/
theorem verify_error_cases {e : VerifyError} (h : verify data trusted = .error e) :
    (∃ e', e = .undecodable e' ∧ e' ≠ .beforeStart) ∨ (∃ rejection, e = .rejected rejection) ∨
      ∃ description, e = .unsupported description := by
  cases hdecode : Message.decode data with
  | error e' =>
    rw [verify_eq_undecodable hdecode] at h
    refine .inl ⟨e', (Except.error.inj h).symm, ?_⟩
    rintro rfl
    exact Message.decode_ne_beforeStart data hdecode
  | ok m =>
    by_cases hpermits : Permits m.key.der trusted
    · rw [verify_of_permits hdecode hpermits] at h
      split at h
      · split_ifs at h
        exact .inr (.inl ⟨_, (Except.error.inj h).symm⟩)
      · exact .inr (.inl ⟨_, (Except.error.inj h).symm⟩)
      · exact .inr (.inr ⟨_, (Except.error.inj h).symm⟩)
    · obtain ⟨rejection, -, hverify⟩ := verify_of_not_permits hdecode hpermits
      rw [hverify] at h
      exact .inr (.inl ⟨rejection, (Except.error.inj h).symm⟩)

end

/-- Whatever the library, verification gives a result or a refusal if and only if the key that
decides is not one that the library does not support. What is no message is refused by the decoder;
a message whose key may not stand with the trusted one is rejected for that; and any other key that
cannot be used verifies nothing. A digest is checked under every file but one of such a key. -/
theorem verify_answers_iff [KeyLibrary] (data : Bytes) (trusted : Option Bytes) :
    (Answered (verify data trusted) ↔
      ∀ m description, Message.decode data = .ok m → Permits m.key.der trusted →
        ¬ HoldsUnsupportedKey (trusted.getD m.key.der) description) ∧
    (∀ e, Message.decode data = .error e → verify data trusted = .error (.undecodable e)) ∧
    (∀ m, Message.decode data = .ok m → ¬ Permits m.key.der trusted →
      ∃ rejection, rejection ≠ .badSignature ∧
        verify data trusted = .error (.rejected rejection)) ∧
    (∀ m e, Message.decode data = .ok m → Permits m.key.der trusted →
      loadPublicKey (trusted.getD m.key.der) = .error (.refused e) →
        verify data trusted = .error (.rejected .badSignature)) ∧
    ∀ (file signature : Bytes) (digest : Digest),
      (∃ accepted, verifyDigest file digest.bytes signature = .ok accepted) ↔
        ∀ description, ¬ HoldsUnsupportedKey file description := by
  refine ⟨?_, fun e => verify_eq_undecodable, fun m => verify_of_not_permits,
    fun m e hdecode hpermits hload => ?_, fun file signature digest => verifyDigest_isOk_iff⟩
  · cases hdecode : Message.decode data with
    | error e =>
      have hne : e ≠ .beforeStart := by
        rintro rfl
        exact Message.decode_ne_beforeStart data hdecode
      simp [verify_eq_undecodable hdecode, Answered, hne]
    | ok m =>
      by_cases hpermits : Permits m.key.der trusted
      · rw [answered_iff_of_permits hdecode hpermits]
        refine ⟨fun hnone m' description hm _ => ?_,
          fun hnone description => hnone m description rfl hpermits⟩
        cases hm
        exact hnone description
      · obtain ⟨rejection, -, hverify⟩ := verify_of_not_permits hdecode hpermits
        rw [hverify]
        refine iff_of_true trivial fun m' description hm hpermits' => ?_
        cases hm
        exact absurd hpermits' hpermits
  · rw [verify_of_permits hdecode hpermits, hload]

/-- A message whose key is no key at all. -/
theorem verify_answers_iff_specimen :
    loadPublicKey Message.specimen.key.der = .error (.refused .notPublicKey) ∧
    verify Message.specimen.layout none = .error (.rejected .badSignature) ∧
    Answered (verify Message.specimen.layout none) := by
  have hdecode : Message.decode Message.specimen.layout = .ok Message.specimen :=
    Message.decode_layout (by decide)
  have hpermits : Permits Message.specimen.key.der none := List.cons_ne_nil _ _
  have hload : loadPublicKey Message.specimen.key.der = .error (.refused .notPublicKey) := by
    decide +kernel
  obtain ⟨-, -, -, hrejected, -⟩ := verify_answers_iff Message.specimen.layout none
  have hverify := hrejected Message.specimen .notPublicKey hdecode hpermits hload
  refine ⟨hload, hverify, ?_⟩
  rw [hverify]
  trivial

/-- A message of two bytes with a key of the algorithm 1.2.3.4, which stands for nothing. -/
def Message.unknownSpecimen : Message where
  payload := [0x7b, 0x7d]
  signature := ⟨List.replicate 256 0, List.length_replicate⟩
  key := ⟨[0x30, 0x0a, 0x30, 0x05, 0x06, 0x03, 0x2a, 0x03, 0x04, 0x03, 0x01, 0x00], by decide⟩

/-- The key that a message carries can keep it from being answered. -/
theorem verify_unknownSpecimen :
    verify Message.unknownSpecimen.layout none =
      .error (.unsupported "Unknown key type: 1.2.3.4") ∧
    ¬ Answered (verify Message.unknownSpecimen.layout none) := by
  have hdecode : Message.decode Message.unknownSpecimen.layout = .ok Message.unknownSpecimen :=
    Message.decode_layout (by decide)
  have hpermits : Permits Message.unknownSpecimen.key.der none := List.cons_ne_nil _ _
  have hload : loadPublicKey (Option.getD none Message.unknownSpecimen.key.der) =
      .error (.unsupported "Unknown key type: 1.2.3.4") := by
    decide +kernel
  have hverify := verify_of_permits hdecode hpermits
  rw [hload] at hverify
  refine ⟨hverify, ?_⟩
  rw [hverify]
  exact not_false

end Rs256Cose
