import Mathlib
import Rs256Cose.Proofs.Message.Signing

/-!
# What a signature fixes

Under the exported key of a signing key there are two byte strings for each payload that are
accepted, those that the key itself makes with and without its public half embedded
(`verify_pinned_iff_sign`): no part of a message can be varied. Under any key whatever, a signature
that is accepted for two payloads shows a collision of digests (`payload_eq_or_collides`).
-/

namespace Rs256Cose

open Profile Keys Rsa

/-! ### The one message of a payload -/

section

variable {key : PrivateKey} {der data : Bytes}

/-- A message signed under the exported key is what the key makes of its draft. -/
theorem Message.SignedUnder.signed_eq [KeyLibrary] {m : Message} (embedded : Option EmbeddedKey)
    (h : m.SignedUnder der) (hp : key.prime1.Prime) (hq : key.prime2.Prime)
    (hsize : key.toPublicKey.size = requiredBits)
    (hexport : exportPublicKey key.toPublicKey = .ok der)
    (hlim : m.payload.length < Cbor.argumentLimit) (hembedded : embedded.getD .empty = m.key) :
    Draft.signed ⟨m.payload, embedded⟩ key = m := by
  obtain ⟨-, hhigh⟩ := modulus_bounds hsize
  obtain ⟨loaded, hload, -, hsignature⟩ := (Message.signedUnder_iff hlim).mp h
  have hproper := isProper_of_exportPublicKey hsize hexport
  rw [loadPublicKey_of_exportPublicKey hproper hsize hexport] at hload
  obtain rfl : key.toPublicKey = loaded := Except.ok.inj hload
  have hunique := Signature.eq_of_bytes_eq (hsignature.eq_sign hp hq hhigh.le)
  simp only [Draft.signed, hembedded, ← hunique]

namespace Draft

variable {d : Draft}

/-- Only what CBOR can announce the length of is ever signed. -/
theorem length_payload_lt_of_digest {digest : Digest} (h : d.digest = .ok digest) :
    d.payload.length < Cbor.argumentLimit := by
  by_contra hlim
  rw [Draft.digest, toBeSigned_of_le (Nat.le_of_not_lt hlim)] at h
  cases h

theorem sign_eq_ok_iff : d.sign key = .ok data ↔
    d.payload.length < Cbor.argumentLimit ∧ (d.signed key).layout = data := by
  refine ⟨?_, ?_⟩
  · intro h
    obtain ⟨digest, hdigest, -⟩ := do_eq_ok_iff.mp h
    have hlim := length_payload_lt_of_digest hdigest
    rw [sign_eq hlim] at h
    exact ⟨hlim, Except.ok.inj h⟩
  · rintro ⟨hlim, rfl⟩
    exact sign_eq hlim

end Draft

/-- Under the exported key of a signing key on file, exactly what the key signs is accepted: the
payload with the exported key embedded, or without any key. -/
theorem verify_pinned_iff_sign [KeyLibrary] {path : String} {w : World} {v : Verified}
    (hload : ((loadSigningKey path : StateM World _).run w).1 = .ok key)
    (hp : key.prime1.Prime) (hq : key.prime2.Prime)
    (hexport : exportPublicKey key.toPublicKey = .ok der) :
    verify data (some der) = .ok v ↔
      (v.key.der = der ∧
        (Draft.ofSupplied (.bytes v.payload) (.bytes der)).bind (·.sign key) = .ok data) ∨
      (v.key = .empty ∧
        (Draft.ofSupplied (.bytes v.payload) .absent).bind (·.sign key) = .ok data) := by
  obtain ⟨-, -, -, hsize⟩ := loadSigningKey_eq_ok_iff.mp hload
  refine ⟨?_, ?_⟩
  · intro h
    obtain ⟨m, hdecode, hpermits, hsigned, rfl⟩ := verify_eq_ok_iff.mp h
    obtain ⟨hlim, hlayout⟩ := Message.decode_eq_ok_iff.mp hdecode
    rcases hpermits with hnone | rfl
    · have hempty : EmbeddedKey.empty = m.key := (EmbeddedKey.eq_of_der_eq hnone).symm
      have hm := hsigned.signed_eq none hp hq hsize hexport hlim hempty
      have hsign := Draft.sign_eq_ok_iff.mpr ⟨hlim, hm.symm ▸ hlayout⟩
      exact .inr ⟨hempty.symm, bind_eq_ok_iff.mpr ⟨_, rfl, hsign⟩⟩
    · have hm := hsigned.signed_eq (some m.key) hp hq hsize hexport hlim rfl
      have hsign := Draft.sign_eq_ok_iff.mpr ⟨hlim, hm.symm ▸ hlayout⟩
      exact .inl ⟨rfl, bind_eq_ok_iff.mpr ⟨_, Draft.ofSupplied_bytes m.key, hsign⟩⟩
  · obtain ⟨payload, embedded⟩ := v
    rintro (⟨rfl, hsign⟩ | ⟨rfl, hsign⟩)
    · rw [Draft.ofSupplied_bytes embedded] at hsign
      obtain ⟨hlim, rfl⟩ := Draft.sign_eq_ok_iff.mp hsign
      exact verify_signed hp hq hsize hexport hlim (.inr rfl) rfl
    · obtain ⟨hlim, rfl⟩ := Draft.sign_eq_ok_iff (d := ⟨payload, none⟩).mp hsign
      exact verify_signed hp hq hsize hexport hlim (.inl rfl) rfl

theorem verify_pinned_iff_sign_specimen :
    ((loadSigningKey "key.pem" : StateM World _).run specimenWorld).1 = .ok specimen ∧
    exportPublicKey specimen.toPublicKey = .ok (encodePublicInfo specimen.toPublicKey) ∧
    verify Message.signedSpecimen.layout (some (encodePublicInfo specimen.toPublicKey)) =
      .ok ⟨[0x7b, 0x7d], Message.signedSpecimen.key⟩ ∧
    (Draft.ofSupplied (.bytes [0x7b, 0x7d])
      (.bytes (encodePublicInfo specimen.toPublicKey))).bind (·.sign specimen) =
        .ok Message.signedSpecimen.layout := by
  have hverify : verify Message.signedSpecimen.layout
      (some (encodePublicInfo specimen.toPublicKey)) =
        .ok ⟨[0x7b, 0x7d], Message.signedSpecimen.key⟩ := verify_signedSpecimen rfl
  have hne : Message.signedSpecimen.key ≠ .empty := by decide +kernel
  rcases (verify_pinned_iff_sign loadSigningKey_specimen prime_specimenPrime1
    prime_specimenPrime2 exportPublicKey_specimen).mp hverify with ⟨-, hsign⟩ | ⟨hempty, -⟩
  · exact ⟨loadSigningKey_specimen, exportPublicKey_specimen, hverify, hsign⟩
  · exact absurd hempty hne

end

/-! ### Two payloads under one signature -/

/-- Two byte strings that have one digest. -/
def Sha256.Collides (a b : Bytes) : Prop := a ≠ b ∧ sha256 a = sha256 b

/-- Whatever key decides, messages accepted under it with one signature have one payload, or the
bytes that are signed for them are a collision. -/
theorem payload_eq_or_collides [KeyLibrary] {key data data' : Bytes}
    {trusted trusted' : Option Bytes} {m m' : Message} {v v' : Verified}
    (hdecode : Message.decode data = .ok m)
    (hdecode' : Message.decode data' = .ok m') (hverify : verify data trusted = .ok v)
    (hverify' : verify data' trusted' = .ok v') (hkey : trusted.getD m.key.der = key)
    (hkey' : trusted'.getD m'.key.der = key) (hsignature : m.signature = m'.signature) :
    v.payload = v'.payload ∨ ∃ toBeSigned toBeSigned',
      (Draft.ofMessage m).toBeSigned = .ok toBeSigned ∧
      (Draft.ofMessage m').toBeSigned = .ok toBeSigned' ∧
      Sha256.Collides toBeSigned toBeSigned' := by
  obtain ⟨hlim, -⟩ := Message.decode_eq_ok_iff.mp hdecode
  obtain ⟨hlim', -⟩ := Message.decode_eq_ok_iff.mp hdecode'
  obtain ⟨found, hfound, -, hsigned, rfl⟩ := verify_eq_ok_iff.mp hverify
  obtain ⟨found', hfound', -, hsigned', rfl⟩ := verify_eq_ok_iff.mp hverify'
  obtain rfl : m = found := Except.ok.inj (hdecode.symm.trans hfound)
  obtain rfl : m' = found' := Except.ok.inj (hdecode'.symm.trans hfound')
  rw [hkey] at hsigned
  rw [hkey'] at hsigned'
  -- one file holds one key, and under it one signature is that of one digest
  obtain ⟨loaded, hload, -, hdigest⟩ := (Message.signedUnder_iff hlim).mp hsigned
  obtain ⟨loaded', hload', -, hdigest'⟩ := (Message.signedUnder_iff hlim').mp hsigned'
  obtain rfl : loaded = loaded' := Except.ok.inj (hload.symm.trans hload')
  rw [← hsignature] at hdigest'
  have hcollision := hdigest.digest_eq hdigest'
  by_cases hpayload : m.payload = m'.payload
  · exact .inl hpayload
  · right
    refine ⟨_, _, Draft.toBeSigned_eq hlim, Draft.toBeSigned_eq hlim', ?_, hcollision⟩
    intro hsame
    have hheader : protectedHeader.length < Cbor.argumentLimit := by decide
    exact hpayload (ToBeSigned.layout_inj hheader hheader hlim hlim' hsame).2

/-- The message of two bytes again, its key left out. -/
def Message.detachedSpecimen : Message := Draft.signed ⟨[0x7b, 0x7d], none⟩ Rsa.specimen

theorem payload_eq_or_collides_specimen :
    ∃ v v', verify Message.signedSpecimen.layout none = .ok v ∧
      verify Message.detachedSpecimen.layout (some (encodePublicInfo specimen.toPublicKey)) =
        .ok v' ∧
      Message.signedSpecimen.layout ≠ Message.detachedSpecimen.layout ∧
      (v.payload = v'.payload ∨ ∃ toBeSigned toBeSigned',
        (Draft.ofMessage Message.signedSpecimen).toBeSigned = .ok toBeSigned ∧
        (Draft.ofMessage Message.detachedSpecimen).toBeSigned = .ok toBeSigned' ∧
        Sha256.Collides toBeSigned toBeSigned') := by
  have hdecode : Message.decode Message.signedSpecimen.layout = .ok Message.signedSpecimen :=
    Message.decode_eq_ok_iff.mpr ⟨by decide, rfl⟩
  have hdecode' : Message.decode Message.detachedSpecimen.layout = .ok Message.detachedSpecimen :=
    Message.decode_eq_ok_iff.mpr ⟨by decide, rfl⟩
  have hne : Message.signedSpecimen.key.der ≠ [] :=
    ne_nil_of_exportPublicKey exportPublicKey_specimen
  have hverify : verify Message.signedSpecimen.layout none =
      .ok ⟨[0x7b, 0x7d], Message.signedSpecimen.key⟩ := verify_signedSpecimen rfl
  have hverify' : verify Message.detachedSpecimen.layout
      (some (encodePublicInfo specimen.toPublicKey)) = .ok ⟨[0x7b, 0x7d], .empty⟩ :=
    verify_signed (d := ⟨[0x7b, 0x7d], none⟩) prime_specimenPrime1 prime_specimenPrime2
      size_specimen exportPublicKey_specimen (by decide) (.inl rfl) rfl
  refine ⟨_, _, hverify, hverify', ?_,
    payload_eq_or_collides hdecode hdecode' hverify hverify' rfl rfl rfl⟩
  intro hsame
  rw [hsame, hdecode'] at hdecode
  exact hne (congrArg (fun m => m.key.der) (Except.ok.inj hdecode)).symm

end Rs256Cose
