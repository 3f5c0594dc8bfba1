import Mathlib
import Rs256Cose.Proofs.Message.Binding

/-!
# What is checked before signing

A draft can be made of exactly the values that it was made of (`Draft.ofSupplied_eq_ok_iff`), so
whatever is wrong with a payload or a key is refused before anything is signed. What is left to be
refused afterwards is the signature alone (`Draft.attach_eq_map`): a signer is asked once, for the
digest of the bytes to be signed, and from there on only its answer decides
(`Draft.signing_checks`).
-/

namespace Rs256Cose

open Profile

/-! ### Supplied values -/

/-- A value that is bytes. -/
def Supplied.IsBytes (v : Supplied) : Prop := ∃ data, v = .bytes data

theorem Supplied.toBytes_eq_ok_iff {field : String} {v : Supplied} {data : Bytes} :
    v.toBytes field = .ok data ↔ v = .bytes data := by
  cases v with
  | bytes data' => simp [toBytes]
  | absent => simp [toBytes]
  | other kind => simp [toBytes]

theorem EmbeddedKey.ofBytes_eq_ok_iff {der : Bytes} {key : EmbeddedKey} :
    ofBytes der = .ok key ↔ der = key.der := by
  refine ⟨?_, ?_⟩
  · intro h
    unfold ofBytes at h
    split_ifs at h
    cases h
    rfl
  · rintro rfl
    exact ofBytes_der key

theorem EmbeddedKey.ofSupplied_bytes (key : EmbeddedKey) :
    ofSupplied (.bytes key.der) = .ok key := by
  simp only [ofSupplied, Supplied.toBytes, Except.bind, ofBytes_der]

theorem Signature.ofSupplied_eq_ok_iff {v : Supplied} {signature : Signature} :
    ofSupplied v = .ok signature ↔ v = .bytes signature.bytes := by
  refine ⟨?_, ?_⟩
  · intro h
    obtain ⟨data, hdata, hsignature⟩ := bind_eq_ok_iff.mp h
    rw [Supplied.toBytes_eq_ok_iff.mp hdata]
    unfold ofBytes at hsignature
    split_ifs at hsignature
    cases hsignature
    rfl
  · rintro rfl
    exact ofSupplied_bytes signature

/-- Some error is the answer exactly when no value is. -/
theorem exists_eq_error_iff {ε α : Type} {x : Except ε α} :
    (∃ e, x = .error e) ↔ ¬ ∃ a, x = .ok a := by
  cases x with
  | error e => simp
  | ok a => simp

/-- A signature is refused if it is not bytes of the one length. -/
theorem Signature.exists_ofSupplied_error_iff {v : Supplied} :
    (∃ e, ofSupplied v = .error e) ↔ ∀ data, v = .bytes data → data.length ≠ signatureLength := by
  simp only [exists_eq_error_iff, ofSupplied_eq_ok_iff, not_exists]
  refine ⟨?_, ?_⟩
  · intro h data hdata hlength
    exact h ⟨data, hlength⟩ hdata
  · intro h signature hsignature
    exact h signature.bytes hsignature signature.length_eq

/-- Whatever is wrong with a signature, it is not the length of a key. -/
theorem Signature.ofSupplied_ne_keyTooLong {v : Supplied} {n : Nat} :
    ofSupplied v ≠ .error (.keyTooLong n) := by
  intro h
  rcases do_eq_error_iff.mp h with hkind | ⟨data, -, hlength⟩
  · cases v <;> cases hkind
  · unfold ofBytes at hlength
    split_ifs at hlength
    cases hlength

namespace Draft

/-! ### Before signing -/

/-- A draft is made of its payload and its key, and of no other values. -/
theorem ofSupplied_eq_ok_iff {payload key : Supplied} {d : Draft} :
    ofSupplied payload key = .ok d ↔
      payload = .bytes d.payload ∧ key = d.key.elim .absent fun key => .bytes key.der := by
  refine ⟨?_, ?_⟩
  · intro h
    obtain ⟨data, hdata, hkey⟩ := do_eq_ok_iff.mp h
    rw [Supplied.toBytes_eq_ok_iff] at hdata
    subst hdata
    split at hkey
    · cases hkey
      exact ⟨rfl, rfl⟩
    · obtain ⟨der, hder, hkey⟩ := do_eq_ok_iff.mp hkey
      obtain ⟨embedded, hembedded, hkey⟩ := do_eq_ok_iff.mp hkey
      cases hkey
      rw [Supplied.toBytes_eq_ok_iff] at hder
      rw [EmbeddedKey.ofBytes_eq_ok_iff] at hembedded
      subst hembedded
      exact ⟨rfl, hder⟩
  · obtain ⟨data, embedded⟩ := d
    rintro ⟨rfl, rfl⟩
    cases embedded with
    | none => rfl
    | some embedded => exact ofSupplied_bytes embedded

/-- No draft is made of a payload that is not bytes, or of a key that is neither left out nor bytes
nor short enough. -/
theorem exists_ofSupplied_error_iff {payload key : Supplied} :
    (∃ e, ofSupplied payload key = .error e) ↔
      ¬ payload.IsBytes ∨ (key ≠ .absent ∧ ¬ key.IsBytes) ∨
        ∃ der, key = .bytes der ∧ maxKeyLength < der.length := by
  rw [exists_eq_error_iff, ← not_iff_not]
  push Not
  refine ⟨?_, ?_⟩
  · rintro ⟨⟨data, embedded⟩, h⟩
    obtain ⟨rfl, rfl⟩ := ofSupplied_eq_ok_iff.mp h
    refine ⟨⟨data, rfl⟩, ?_⟩
    cases embedded with
    | none => exact ⟨fun h => absurd rfl h, fun der h => nomatch h⟩
    | some embedded =>
      refine ⟨fun _ => ⟨embedded.der, rfl⟩, ?_⟩
      rintro der h
      cases h
      exact embedded.length_le
  · rintro ⟨⟨data, rfl⟩, hkind, hlength⟩
    by_cases habsent : key = .absent
    · exact ⟨⟨data, none⟩, ofSupplied_eq_ok_iff.mpr ⟨rfl, habsent⟩⟩
    · obtain ⟨der, rfl⟩ := hkind habsent
      exact ⟨⟨data, some ⟨der, hlength der rfl⟩⟩, ofSupplied_eq_ok_iff.mpr ⟨rfl, rfl⟩⟩

/-! ### The signer -/

/-- Signing with a signer that does more than to answer, such as to fail or to keep a record. -/
def signThrough {m : Type → Type} [Monad m] (d : Draft) (signer : Digest → m Supplied) :
    m (Except EncodeError Bytes) :=
  match d.digest with
  | .error e => return .error e
  | .ok digest => return d.attach (← signer digest)

/-- A signer that only answers is a special case. -/
theorem signWith_eq_signThrough (d : Draft) (signer : Digest → Supplied) :
    d.signWith signer = Id.run (d.signThrough fun digest => pure (signer digest)) := by
  unfold signWith signThrough
  cases d.digest with
  | error e => rfl
  | ok digest => rfl

variable {d : Draft}

/-- The signer is asked once, for the digest of the bytes to be signed. -/
theorem signThrough_eq {m : Type → Type} [Monad m] {toBeSigned : Bytes}
    (h : d.toBeSigned = .ok toBeSigned) (signer : Digest → m Supplied) :
    d.signThrough signer = (do return d.attach (← signer (sha256 toBeSigned))) := by
  have hdigest : d.digest = .ok (sha256 toBeSigned) := by
    unfold digest
    rw [h]
    rfl
  unfold signThrough
  rw [hdigest]

/-! ### After signing -/

/-- Whatever is attached, only the signature is still checked. -/
theorem attach_eq_map (hlim : d.payload.length < Cbor.argumentLimit) (answer : Supplied) :
    d.attach answer =
      (Signature.ofSupplied answer).map fun signature => (d.messageWith signature).layout := by
  cases h : Signature.ofSupplied answer with
  | ok signature =>
    rw [Signature.ofSupplied_eq_ok_iff.mp h]
    exact attach_eq hlim
  | error e =>
    simp only [attach, Message.ofSupplied, Supplied.toBytes, h, bind, Except.bind, ne_eq, not_true,
      if_false, Except.map]

/-- Signing does not look at the length of the key again. -/
theorem signWith_ne_keyTooLong (d : Draft) (signer : Digest → Supplied) (n : Nat) :
    d.signWith signer ≠ .error (.keyTooLong n) := by
  intro h
  rcases do_eq_error_iff.mp h with hdigest | ⟨digest, hdigest, hattach⟩
  · by_cases hlim : d.payload.length < Cbor.argumentLimit
    · rw [digest_eq hlim] at hdigest
      cases hdigest
    · rw [digest, toBeSigned_of_le (Nat.le_of_not_lt hlim)] at hdigest
      cases hdigest
  · rw [attach_eq_map (length_payload_lt_of_digest hdigest)] at hattach
    cases hsignature : Signature.ofSupplied (signer digest) with
    | ok signature =>
      rw [hsignature] at hattach
      cases hattach
    | error e =>
      rw [hsignature] at hattach
      cases hattach
      exact Signature.ofSupplied_ne_keyTooLong hsignature

/-- Payload and key are checked in full before signing. Of a draft that was made, the signer gets
the digest of the bytes to be signed and nothing else, and its answer is refused exactly if it is no
signature; any signature is embedded as it is. -/
theorem signing_checks (payload key : Supplied) :
    ((∃ e, ofSupplied payload key = .error e) ↔
      ¬ payload.IsBytes ∨ (key ≠ .absent ∧ ¬ key.IsBytes) ∨
        ∃ der, key = .bytes der ∧ 312 < der.length) ∧
    ∀ d, ofSupplied payload key = .ok d → d.payload.length < 2 ^ 64 →
      payload = .bytes d.payload ∧ (key = d.key.elim .absent fun key => .bytes key.der) ∧
      (∃ toBeSigned, d.toBeSigned = .ok toBeSigned ∧
        (∀ signer, d.signWith signer = d.attach (signer (sha256 toBeSigned))) ∧
        ∀ {m : Type → Type} [Monad m] (signer : Digest → m Supplied),
          d.signThrough signer = (do return d.attach (← signer (sha256 toBeSigned)))) ∧
      ∀ answer, ((∃ e, d.attach answer = .error e) ↔
          ∀ data, answer = .bytes data → data.length ≠ 256) ∧
        ∀ data, answer = .bytes data → data.length = 256 → ∃ wire m,
          d.attach answer = .ok wire ∧ Message.decode wire = .ok m ∧ m.signature.bytes = data ∧
          m.payload = d.payload ∧ m.key = d.key.getD .empty := by
  refine ⟨exists_ofSupplied_error_iff, ?_⟩
  intro d hdraft hlim
  obtain ⟨hpayload, hkey⟩ := ofSupplied_eq_ok_iff.mp hdraft
  have hsigned := toBeSigned_eq hlim
  refine ⟨hpayload, hkey, ⟨_, hsigned, fun signer => ?_, signThrough_eq hsigned⟩, ?_⟩
  · rw [signWith_eq_signThrough, signThrough_eq hsigned]
    rfl
  intro answer
  refine ⟨?_, ?_⟩
  · refine Iff.trans ?_ Signature.exists_ofSupplied_error_iff
    rw [attach_eq_map hlim]
    cases Signature.ofSupplied answer with
    | error e => simp [Except.map]
    | ok signature => simp [Except.map]
  · rintro data rfl hlength
    let signature : Signature := ⟨data, hlength⟩
    have hattach : d.attach (.bytes signature.bytes) = .ok (d.messageWith signature).layout :=
      attach_eq hlim
    exact ⟨_, d.messageWith signature, hattach, Message.decode_layout hlim, rfl, rfl, rfl⟩

/-- A signer that keeps a record of what it was asked for. -/
def recordingSigner (answer : Supplied) (digest : Digest) : StateM (List Digest) Supplied := do
  modify (digest :: ·)
  return answer

theorem signing_checks_recordingSigner :
    ∃ d toBeSigned wire m, ofSupplied (.bytes [0x7b, 0x7d]) (.bytes [0x58]) = .ok d ∧
      d.toBeSigned = .ok toBeSigned ∧
      (d.signThrough (recordingSigner (.bytes (List.replicate 256 0xd2)))).run [] =
        (.ok wire, [sha256 toBeSigned]) ∧
      Message.decode wire = .ok m ∧ m.signature.bytes = List.replicate 256 0xd2 ∧
      ∃ e, d.signWith (fun _ => .bytes []) = .error e := by
  obtain ⟨-, hdrafts⟩ := signing_checks (.bytes [0x7b, 0x7d]) (.bytes [0x58])
  obtain ⟨-, -, ⟨toBeSigned, hsigned, hpure, hsigner⟩, hanswer⟩ :=
    hdrafts ⟨[0x7b, 0x7d], some ⟨[0x58], by decide⟩⟩ rfl (by decide)
  obtain ⟨-, hembed⟩ := hanswer (.bytes (List.replicate 256 0xd2))
  obtain ⟨wire, m, hattach, hdecode, hsignature, -⟩ := hembed _ rfl List.length_replicate
  refine ⟨_, toBeSigned, wire, m, rfl, hsigned, ?_, hdecode, hsignature, ?_⟩
  · rw [hsigner, ← hattach]
    rfl
  · rw [hpure]
    refine (hanswer (.bytes [])).1.mpr ?_
    rintro data h
    cases h
    decide

end Draft

end Rs256Cose
