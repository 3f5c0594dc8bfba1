import Mathlib
import Rs256Cose.Message.Verification
import Rs256Cose.Proofs.Keys.Storage
import Rs256Cose.Proofs.Message.ToBeSigned
import Rs256Cose.Proofs.Message.Wire
import Rs256Cose.Proofs.Rsa.Signature

/-!
# What verification accepts

`Permits` is the rule by which an embedded key and a trusted one may stand together, and the key
that decides is the trusted one when there is one. `Message.SignedUnder` says that a message is
signed under the key in a file, over the bytes that are rebuilt for its payload.
`verify_accepts_iff` puts the two together with the decoder. All of this holds whatever the library
takes for a key; which keys it checks signatures under is part of `Message.SignedUnder`.
-/

namespace Rs256Cose

open Profile Keys

/-! ### Which key decides -/

/-- Whether a message with this embedded key may be checked, given a trusted key or none. -/
def Permits (embedded : Bytes) : Option Bytes → Prop
  | some trusted => embedded = [] ∨ embedded = trusted
  | none => embedded ≠ []

theorem trustedKey_eq_ok_iff {embedded : EmbeddedKey} {trusted : Option Bytes} {der : Bytes} :
    trustedKey embedded trusted = .ok der ↔
      Permits embedded.der trusted ∧ trusted.getD embedded.der = der := by
  cases trusted with
  | none =>
    simp only [trustedKey, Permits, Option.getD_none]
    split_ifs with h <;> simp [h]
  | some trusted =>
    simp only [trustedKey, Permits, Option.getD_some]
    split_ifs with h
    · simp [h.1, h.2]
    · have hpermits : embedded.der = [] ∨ embedded.der = trusted := by tauto
      simp [hpermits]

/-! ### The signature of a digest -/

theorem ofBytes?_bytes (digest : Digest) : Digest.ofBytes? digest.bytes = some digest := by
  unfold Digest.ofBytes?
  rw [dif_pos digest.length_eq]

section

variable [KeyLibrary]

/-- The file alone decides whether a digest is checked, counts as not verified or cannot be
checked. -/
theorem verifyDigest_bytes (file signature : Bytes) (digest : Digest) :
    verifyDigest file digest.bytes signature = match loadPublicKey file with
      | .ok key => .ok (KeyLibrary.verifies key digest signature)
      | .error (.refused _) => .ok false
      | .error (.unsupported description) => .error (.unsupported description) := by
  unfold verifyDigest usableKey
  cases loadPublicKey file with
  | ok key => simp only [Except.bind, ofBytes?_bytes]
  | error e =>
    cases e with
    | refused e => rfl
    | unsupported description => rfl

/-- Under a key of the required size the library finds the signatures of RFC 8017, if it checks any
under this key. -/
theorem verifies_iff_of_size {key : Rsa.PublicKey} {digest : Digest} {signature : Bytes}
    (hsize : key.size = requiredBits) : KeyLibrary.verifies key digest signature = true ↔
      KeyLibrary.checks key = true ∧ key.IsSignature digest signature := by
  obtain ⟨hlow, hhigh⟩ := modulus_bounds hsize
  have hpos : 0 < key.modulus := lt_of_lt_of_le (by decide) hlow
  rw [KeyLibrary.verifies, Bool.and_eq_true, Rsa.PublicKey.verifies_iff hpos hhigh.le]

/-- A digest is verified under a file if and only if the file holds a usable key under which
signatures are checked and the bytes are a signature under this key. -/
theorem verifyDigest_eq_ok_true_iff {file signature : Bytes} {digest : Digest} :
    verifyDigest file digest.bytes signature = .ok true ↔
      ∃ key, loadPublicKey file = .ok key ∧ KeyLibrary.checks key = true ∧
        key.IsSignature digest signature := by
  rw [verifyDigest_bytes]
  cases hload : loadPublicKey file with
  | ok key =>
    have hsize := (loadPublicKey_eq_ok_iff.mp hload).2
    simp [verifies_iff_of_size hsize]
  | error e => cases e <;> simp

/-! ### The signature of a message -/

/-- A message is signed under a file if the file holds a key of the required size under which
signatures are checked, and the bytes that are rebuilt for the payload have the message's signature
under this key. -/
def Message.SignedUnder (m : Message) (file : Bytes) : Prop :=
  ∃ key toBeSigned, loadPublicKey file = .ok key ∧ key.size = 2048 ∧
    ToBeSigned.encode protectedHeader m.payload = .ok toBeSigned ∧
    KeyLibrary.checks key = true ∧ key.IsSignature (sha256 toBeSigned) m.signature.bytes

theorem Message.signedUnder_iff {m : Message} {file : Bytes}
    (hlim : m.payload.length < Cbor.argumentLimit) :
    m.SignedUnder file ↔ ∃ key, loadPublicKey file = .ok key ∧ KeyLibrary.checks key = true ∧
      key.IsSignature (sha256 (ToBeSigned.layout protectedHeader m.payload)) m.signature.bytes := by
  have hencode : ToBeSigned.encode protectedHeader m.payload =
      .ok (ToBeSigned.layout protectedHeader m.payload) := ToBeSigned.encode_eq (by decide) hlim
  unfold SignedUnder
  rw [hencode]
  refine ⟨?_, ?_⟩
  · rintro ⟨key, toBeSigned, hload, -, htoBeSigned, hchecks, hsignature⟩
    cases htoBeSigned
    exact ⟨key, hload, hchecks, hsignature⟩
  · rintro ⟨key, hload, hchecks, hsignature⟩
    exact ⟨key, _, hload, (loadPublicKey_eq_ok_iff.mp hload).2, rfl, hchecks, hsignature⟩

/-- The signature that a key makes for a message is one under its public half. -/
theorem Message.signedUnder_encodePublicInfo {m : Message} {key : Rsa.PrivateKey}
    (hp : key.prime1.Prime) (hq : key.prime2.Prime) (hproper : key.toPublicKey.IsProper)
    (hsize : key.toPublicKey.size = requiredBits) (hlim : m.payload.length < Cbor.argumentLimit)
    (hsignature : m.signature = key.sign (sha256 (ToBeSigned.layout protectedHeader m.payload))) :
    m.SignedUnder (encodePublicInfo key.toPublicKey) := by
  obtain ⟨hlow, hhigh⟩ := modulus_bounds hsize
  refine (signedUnder_iff hlim).mpr ⟨key.toPublicKey, loadPublicKey_encodePublicInfo hproper hsize,
    KeyLibrary.checks_of_isProper _ hproper hsize key.modulus_odd, ?_⟩
  rw [hsignature]
  exact key.isSignature_sign hp hq hlow hhigh.le _

section

variable {data : Bytes} {m : Message} {trusted : Option Bytes}

theorem verify_eq_undecodable {e : DecodeError} (hdecode : Message.decode data = .error e) :
    verify data trusted = .error (.undecodable e) := by
  simp only [verify, hdecode, Except.mapError, bind, Except.bind]

theorem verify_eq_rejected {rejection : Rejection} (hdecode : Message.decode data = .ok m)
    (hkey : trustedKey m.key trusted = .error rejection) :
    verify data trusted = .error (.rejected rejection) := by
  simp only [verify, hdecode, hkey, Except.mapError, bind, Except.bind]

/-- Once the key is decided on, the signature decides. -/
theorem verify_eq_of_decode {der : Bytes} (hdecode : Message.decode data = .ok m)
    (hkey : trustedKey m.key trusted = .ok der) :
    verify data trusted = (verifyDigest der
      (sha256 (ToBeSigned.layout protectedHeader m.payload)).bytes m.signature.bytes).bind
        fun accepted => if accepted then .ok ⟨m.payload, m.key⟩
          else .error (.rejected .badSignature) := by
  have hdigest : (Draft.ofMessage m).digest =
      .ok (sha256 (ToBeSigned.layout protectedHeader m.payload)) :=
    Draft.digest_eq (Message.decode_eq_ok_iff.mp hdecode).1
  simp only [verify, hdecode, hkey, hdigest, Except.mapError, bind, Except.bind]
  rfl

/-- Once the key is permitted, its file is all that can keep a message from an answer. -/
theorem verify_of_permits (hdecode : Message.decode data = .ok m)
    (hpermits : Permits m.key.der trusted) :
    verify data trusted = match loadPublicKey (trusted.getD m.key.der) with
      | .ok key =>
        if KeyLibrary.verifies key (sha256 (ToBeSigned.layout protectedHeader m.payload))
          m.signature.bytes
        then .ok ⟨m.payload, m.key⟩ else .error (.rejected .badSignature)
      | .error (.refused _) => .error (.rejected .badSignature)
      | .error (.unsupported description) => .error (.unsupported description) := by
  rw [verify_eq_of_decode hdecode (trustedKey_eq_ok_iff.mpr ⟨hpermits, rfl⟩), verifyDigest_bytes]
  cases loadPublicKey (trusted.getD m.key.der) with
  | ok key => rfl
  | error e =>
    cases e with
    | refused e => rfl
    | unsupported description => rfl

/-- Acceptance is that of the decoder, of the rule for keys and of the signature check together. -/
theorem verify_eq_ok_iff {v : Verified} :
    verify data trusted = .ok v ↔ ∃ m, Message.decode data = .ok m ∧
      Permits m.key.der trusted ∧ m.SignedUnder (trusted.getD m.key.der) ∧
      v = ⟨m.payload, m.key⟩ := by
  refine ⟨fun h => ?_, ?_⟩
  · obtain ⟨m, hdecode, -⟩ := do_eq_ok_iff.mp h
    have hdecode := mapError_eq_ok_iff.mp hdecode
    have hlim := (Message.decode_eq_ok_iff.mp hdecode).1
    cases hkey : trustedKey m.key trusted with
    | error rejection =>
      rw [verify_eq_rejected hdecode hkey] at h
      cases h
    | ok der =>
      rw [verify_eq_of_decode hdecode hkey] at h
      obtain ⟨accepted, haccepted, h⟩ := bind_eq_ok_iff.mp h
      obtain ⟨hpermits, rfl⟩ := trustedKey_eq_ok_iff.mp hkey
      cases accepted with
      | false => cases h
      | true =>
        cases h
        have hsigned :=
          (Message.signedUnder_iff hlim).mpr (verifyDigest_eq_ok_true_iff.mp haccepted)
        exact ⟨m, hdecode, hpermits, hsigned, rfl⟩
  · rintro ⟨m, hdecode, hpermits, hsigned, rfl⟩
    have hlim := (Message.decode_eq_ok_iff.mp hdecode).1
    have haccepted := verifyDigest_eq_ok_true_iff.mpr ((Message.signedUnder_iff hlim).mp hsigned)
    rw [verify_eq_of_decode hdecode (trustedKey_eq_ok_iff.mpr ⟨hpermits, rfl⟩), haccepted]
    rfl

/-! ### What a trusted key changes -/

/-- The embedded key and the same key trusted give the same answer. -/
theorem verify_none_eq_some (hdecode : Message.decode data = .ok m) (hkey : m.key.der ≠ []) :
    verify data none = verify data (some m.key.der) := by
  have hnone : Permits m.key.der none := hkey
  have hsome : Permits m.key.der (some m.key.der) := .inr rfl
  rw [verify_of_permits hdecode hnone, verify_of_permits hdecode hsome]
  rfl

/-- The empty trusted key is no key: a message without a key has nothing that could verify it, one
with a key has another one. -/
theorem verify_some_nil (hdecode : Message.decode data = .ok m) :
    verify data (some []) =
      .error (.rejected (if m.key.der = [] then .badSignature else .otherKey)) := by
  by_cases h : m.key.der = []
  · have hpermits : Permits m.key.der (some []) := .inl h
    have hload : loadPublicKey [] = .error (.refused .notPublicKey) := rfl
    rw [verify_of_permits hdecode hpermits, if_pos h, Option.getD_some, hload]
  · have hkey : trustedKey m.key (some []) = .error .otherKey := if_pos ⟨h, h⟩
    rw [verify_eq_rejected hdecode hkey, if_neg h]

/-- Without a trusted key a message is rejected for having no key or for its signature only. -/
theorem verify_none_ne_otherKey (hdecode : Message.decode data = .ok m) (hkey : m.key.der ≠ []) :
    verify data none ≠ .error (.rejected .otherKey) := by
  have hpermits : Permits m.key.der none := hkey
  rw [verify_of_permits hdecode hpermits]
  split
  · split_ifs <;> rintro ⟨⟩
  · rintro ⟨⟩
  · rintro ⟨⟩

/-- The empty trusted key is told from no trusted key on every message. -/
theorem verify_some_nil_ne_none (hdecode : Message.decode data = .ok m) :
    verify data (some []) ≠ verify data none := by
  by_cases h : m.key.der = []
  · have hkey : trustedKey m.key none = .error .noKey := if_pos h
    rw [verify_some_nil hdecode, verify_eq_rejected hdecode hkey, if_pos h]
    decide
  · rw [verify_some_nil hdecode, if_neg h]
    exact (verify_none_ne_otherKey hdecode h).symm

end

/-- Verification accepts the wire forms of messages whose key is permitted and that are signed under
the key that decides, and gives their own payload and key. An embedded key decides as it would if
it were trusted; the empty trusted key accepts nothing. -/
theorem verify_accepts_iff (data : Bytes) (trusted : Option Bytes) :
    (∀ v, verify data trusted = .ok v ↔ ∃ m : Message, m.encode = .ok data ∧
      Permits m.key.der trusted ∧ m.SignedUnder (trusted.getD m.key.der) ∧
      v = ⟨m.payload, m.key⟩) ∧
    (∀ m : Message, m.encode = .ok data → m.key.der ≠ [] →
      verify data none = verify data (some m.key.der)) ∧
    (∀ m : Message, m.encode = .ok data → verify data (some []) ≠ verify data none) ∧
    ∀ v, verify data (some []) ≠ .ok v := by
  simp only [← Message.decode_eq_ok_iff_encode]
  refine ⟨fun v => verify_eq_ok_iff, fun m => verify_none_eq_some,
    fun m => verify_some_nil_ne_none, fun v hv => ?_⟩
  obtain ⟨m, hdecode, -⟩ := verify_eq_ok_iff.mp hv
  rw [verify_some_nil hdecode] at hv
  cases hv

end

/-- A message of two bytes with the signature and the public half of the key at hand. -/
def Message.signedSpecimen : Message where
  payload := [0x7b, 0x7d]
  signature := Rsa.specimen.sign (sha256 (ToBeSigned.layout protectedHeader [0x7b, 0x7d]))
  key := ⟨encodePublicInfo Rsa.specimen.toPublicKey, by decide +kernel⟩

theorem verify_accepts_iff_specimen :
    verify Message.signedSpecimen.layout none = .ok ⟨[0x7b, 0x7d], Message.signedSpecimen.key⟩ ∧
    verify Message.signedSpecimen.layout none =
      verify Message.signedSpecimen.layout (some Message.signedSpecimen.key.der) ∧
    verify Message.signedSpecimen.layout (some []) ≠ verify Message.signedSpecimen.layout none := by
  have hlim : Message.signedSpecimen.payload.length < Cbor.argumentLimit := by decide
  have hencode : Message.signedSpecimen.encode = .ok Message.signedSpecimen.layout := by
    rw [Message.encode_eq, if_pos hlim]
  have hne : Message.signedSpecimen.key.der ≠ [] :=
    ne_nil_of_exportPublicKey exportPublicKey_specimen
  have hder : Message.signedSpecimen.key.der = encodePublicInfo Rsa.specimen.toPublicKey := rfl
  have hsigned : Message.signedSpecimen.SignedUnder Message.signedSpecimen.key.der := by
    rw [hder]
    exact Message.signedUnder_encodePublicInfo Rsa.prime_specimenPrime1 Rsa.prime_specimenPrime2
      Rsa.isProper_specimen size_specimen hlim rfl
  obtain ⟨haccepts, hsame, hempty, -⟩ :=
    verify_accepts_iff Message.signedSpecimen.layout none
  exact ⟨(haccepts _).mpr ⟨_, hencode, hne, hsigned, rfl⟩, hsame _ hencode hne, hempty _ hencode⟩

end Rs256Cose
