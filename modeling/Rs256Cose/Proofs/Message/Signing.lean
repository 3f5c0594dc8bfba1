import Mathlib
import Rs256Cose.Proofs.Keys.Length
import Rs256Cose.Proofs.Message.Verification

/-!
# What is signed is accepted

Signing a draft gives the wire form of one message (`Draft.signed`, `Draft.sign_eq`). When the
factors of the key are prime this message is signed under the exported key (`Draft.signedUnder`),
so it is accepted whenever that key decides (`verify_signed`).
-/

namespace Rs256Cose

open Profile Keys Rsa

namespace Draft

/-- The message that a key makes of a draft. -/
def signed (d : Draft) (key : PrivateKey) : Message where
  payload := d.payload
  signature := key.sign (sha256 (ToBeSigned.layout protectedHeader d.payload))
  key := d.key.getD .empty

variable {d : Draft} {key : PrivateKey} {der : Bytes}

/-- A supplied key that fits into a header is the key of the draft. -/
theorem ofSupplied_bytes {payload : Bytes} (embedded : EmbeddedKey) :
    ofSupplied (.bytes payload) (.bytes embedded.der) = .ok ⟨payload, some embedded⟩ := by
  simp only [ofSupplied, Supplied.toBytes, EmbeddedKey.ofBytes_der, bind, Except.bind, pure,
    Except.pure]

/-- An exported key always fits, so a draft can be made with it as well as without a key. -/
theorem exists_ofSupplied_eq {publicKey : PublicKey} {der : Bytes}
    (hexport : exportPublicKey publicKey = .ok der) (payload : Bytes) (embedKey : Bool) :
    ∃ d, ofSupplied (.bytes payload) (if embedKey then .bytes der else .absent) = .ok d ∧
      d.payload = payload ∧ (d.key.getD .empty).der = if embedKey then der else [] := by
  obtain ⟨-, hlength⟩ := exportPublicKey_eq_ok_iff.mp hexport
  cases embedKey with
  | false => exact ⟨⟨payload, none⟩, rfl, rfl, rfl⟩
  | true => exact ⟨⟨payload, some ⟨der, hlength⟩⟩, ofSupplied_bytes ⟨der, hlength⟩, rfl, rfl⟩

/-- The message that a signature makes of a draft. -/
def messageWith (d : Draft) (signature : Signature) : Message :=
  ⟨d.payload, signature, d.key.getD .empty⟩

/-- Attaching a signature writes this message. -/
theorem attach_bytes (d : Draft) (signature : Signature) :
    d.attach (.bytes signature.bytes) = (d.messageWith signature).encode := by
  have hmessage := Message.ofSupplied_bytes (d.messageWith signature)
  simp only [messageWith] at hmessage
  simp only [attach, hmessage, bind, Except.bind, messageWith]

theorem attach_eq {signature : Signature} (hlim : d.payload.length < Cbor.argumentLimit) :
    d.attach (.bytes signature.bytes) =
      .ok (Message.layout ⟨d.payload, signature, d.key.getD .empty⟩) := by
  rw [attach_bytes, Message.encode_eq]
  exact if_pos hlim

theorem sign_eq (hlim : d.payload.length < Cbor.argumentLimit) :
    d.sign key = .ok (d.signed key).layout := by
  rw [sign, signWith, digest_eq hlim, signed]
  simp only [bind, Except.bind, attach_eq hlim]

theorem decode_signed (hlim : d.payload.length < Cbor.argumentLimit) :
    Message.decode (d.signed key).layout = .ok (d.signed key) :=
  Message.decode_layout hlim

/-- What a key of the required size signs is signed under its exported public half. -/
theorem signedUnder [KeyLibrary] (hp : key.prime1.Prime) (hq : key.prime2.Prime)
    (hsize : key.toPublicKey.size = requiredBits)
    (hexport : exportPublicKey key.toPublicKey = .ok der)
    (hlim : d.payload.length < Cbor.argumentLimit) : (d.signed key).SignedUnder der := by
  have hproper := isProper_of_exportPublicKey hsize hexport
  obtain ⟨rfl, -⟩ := exportPublicKey_eq_ok_iff.mp hexport
  exact Message.signedUnder_encodePublicInfo hp hq hproper hsize hlim rfl

end Draft

variable {d : Draft} {key : PrivateKey} {der payload : Bytes} {trusted : Option Bytes}

/-- A signed draft is accepted when its key is permitted and the signer's key decides. -/
theorem verify_signed [KeyLibrary] (hp : key.prime1.Prime) (hq : key.prime2.Prime)
    (hsize : key.toPublicKey.size = requiredBits)
    (hexport : exportPublicKey key.toPublicKey = .ok der)
    (hlim : d.payload.length < Cbor.argumentLimit)
    (hpermits : Permits (d.key.getD .empty).der trusted)
    (hdecides : trusted.getD (d.key.getD .empty).der = der) :
    verify (d.signed key).layout trusted = .ok ⟨d.payload, d.key.getD .empty⟩ := by
  have hsigned := Draft.signedUnder hp hq hsize hexport hlim
  exact verify_eq_ok_iff.mpr ⟨d.signed key, Draft.decode_signed hlim, hpermits,
    hdecides.symm ▸ hsigned, rfl⟩

/-- The message at hand is accepted on its own and under its own key. -/
theorem verify_signedSpecimen [KeyLibrary]
    (h : trusted.getD Message.signedSpecimen.key.der = Message.signedSpecimen.key.der) :
    verify Message.signedSpecimen.layout trusted =
      .ok ⟨[0x7b, 0x7d], Message.signedSpecimen.key⟩ := by
  have hpermits : Permits Message.signedSpecimen.key.der trusted := by
    cases trusted with
    | none => exact ne_nil_of_exportPublicKey exportPublicKey_specimen
    | some trusted => exact .inr h.symm
  exact verify_signed (d := ⟨[0x7b, 0x7d], some Message.signedSpecimen.key⟩) prime_specimenPrime1
    prime_specimenPrime2 size_specimen exportPublicKey_specimen (by decide) hpermits h

/-- What a signing key on file signs is accepted under its exported key, and without a trusted key
exactly when the exported key was embedded; an embedded key excludes every other one. -/
theorem verify_of_sign [KeyLibrary] {path : String} {w : World}
    (hload : ((loadSigningKey path : StateM World _).run w).1 = .ok key)
    (hp : key.prime1.Prime) (hq : key.prime2.Prime)
    (hexport : exportPublicKey key.toPublicKey = .ok der) (hpayload : payload.length < 2 ^ 64) :
    (∃ draft data, Draft.ofSupplied (.bytes payload) .absent = .ok draft ∧
      draft.sign key = .ok data ∧ verify data (some der) = .ok ⟨payload, .empty⟩ ∧
      verify data none = .error (.rejected .noKey)) ∧
    ∃ draft data v, Draft.ofSupplied (.bytes payload) (.bytes der) = .ok draft ∧
      draft.sign key = .ok data ∧ verify data (some der) = .ok v ∧ verify data none = .ok v ∧
      v.payload = payload ∧ v.key.der = der ∧
      ∀ other ≠ der, verify data (some other) = .error (.rejected .otherKey) := by
  obtain ⟨-, -, -, hsize⟩ := loadSigningKey_eq_ok_iff.mp hload
  obtain ⟨-, hlength⟩ := exportPublicKey_eq_ok_iff.mp hexport
  have hne := ne_nil_of_exportPublicKey hexport
  refine ⟨?_, ?_⟩
  · let d : Draft := ⟨payload, none⟩
    have hlim : d.payload.length < Cbor.argumentLimit := hpayload
    have hnone : trustedKey (d.signed key).key none = .error .noKey := rfl
    exact ⟨d, (d.signed key).layout, rfl, Draft.sign_eq hlim,
      verify_signed hp hq hsize hexport hlim (.inl rfl) rfl,
      verify_eq_rejected (Draft.decode_signed hlim) hnone⟩
  · let d : Draft := ⟨payload, some ⟨der, hlength⟩⟩
    have hlim : d.payload.length < Cbor.argumentLimit := hpayload
    refine ⟨d, (d.signed key).layout, ⟨payload, ⟨der, hlength⟩⟩,
      Draft.ofSupplied_bytes ⟨der, hlength⟩, Draft.sign_eq hlim,
      verify_signed hp hq hsize hexport hlim (.inr rfl) rfl,
      verify_signed hp hq hsize hexport hlim hne rfl, rfl, rfl, fun other hother => ?_⟩
    have hkey : trustedKey (d.signed key).key (some other) = .error .otherKey :=
      if_pos ⟨hne, hother.symm⟩
    exact verify_eq_rejected (Draft.decode_signed hlim) hkey

theorem verify_of_sign_specimen :
    ((loadSigningKey "key.pem" : StateM World _).run specimenWorld).1 = .ok specimen ∧
    exportPublicKey specimen.toPublicKey = .ok (encodePublicInfo specimen.toPublicKey) ∧
    (∃ draft data, Draft.ofSupplied (.bytes [0x7b, 0x7d]) .absent = .ok draft ∧
      draft.sign specimen = .ok data ∧
      verify data (some (encodePublicInfo specimen.toPublicKey)) = .ok ⟨[0x7b, 0x7d], .empty⟩ ∧
      verify data none = .error (.rejected .noKey)) ∧
    ∃ draft data v,
      Draft.ofSupplied (.bytes [0x7b, 0x7d]) (.bytes (encodePublicInfo specimen.toPublicKey)) =
        .ok draft ∧
      draft.sign specimen = .ok data ∧
      verify data (some (encodePublicInfo specimen.toPublicKey)) = .ok v ∧
      verify data none = .ok v ∧ v.payload = [0x7b, 0x7d] ∧
      v.key.der = encodePublicInfo specimen.toPublicKey ∧
      ∀ other ≠ encodePublicInfo specimen.toPublicKey,
        verify data (some other) = .error (.rejected .otherKey) :=
  ⟨loadSigningKey_specimen, exportPublicKey_specimen,
    verify_of_sign loadSigningKey_specimen prime_specimenPrime1 prime_specimenPrime2
      exportPublicKey_specimen (by decide)⟩

end Rs256Cose
