import Mathlib
import Rs256Cose.Proofs.Message.Signing

/-!
# Drafts and the messages made of them

A draft holds payload and key in a form of its own, which tells a key that is absent from one that
is empty. Nothing is lost on the way to the wire and back: a message read from what a draft was
made into has its payload, its signature and its key, a draft of that message is signed over the
same bytes, and attaching the signature of a message to its own draft writes the message again
(`draft_agrees`).
-/

namespace Rs256Cose

open Profile Cbor Bytes

namespace Draft

variable {d d' : Draft} {signature : Signature} {data wire wire' : Bytes} {m : Message}

/-- A draft can be made with every key that fits into a header, and without one. -/
theorem ofSupplied_optional (payload : Bytes) {key : Option Bytes}
    (hkey : (key.getD []).length ≤ maxKeyLength) :
    ∃ d, ofSupplied (.bytes payload) (key.elim .absent .bytes) = .ok d ∧ d.payload = payload ∧
      (d.key.getD .empty).der = key.getD [] := by
  cases key with
  | none => exact ⟨⟨payload, none⟩, rfl, rfl, rfl⟩
  | some der => exact ⟨⟨payload, some ⟨der, hkey⟩⟩, ofSupplied_bytes ⟨der, hkey⟩, rfl, rfl⟩

/-! ### From a draft to a message -/

/-- What is written for a draft is read as the message that the signature makes of it. -/
theorem decode_of_attach (h : d.attach (.bytes signature.bytes) = .ok wire) :
    Message.decode wire = .ok (d.messageWith signature) := by
  rw [attach_bytes] at h
  exact Message.decode_eq_ok_iff_encode.mpr h

/-- Of one payload and one signature the same bytes are written exactly for the same key, an absent
one counted as empty. -/
theorem attach_inj_iff (hpayload : d.payload = d'.payload)
    (h : d.attach (.bytes signature.bytes) = .ok wire)
    (h' : d'.attach (.bytes signature.bytes) = .ok wire') :
    wire = wire' ↔ (d.key.getD .empty).der = (d'.key.getD .empty).der := by
  refine ⟨?_, ?_⟩
  · intro hwire
    have hmessage := decode_of_attach h
    rw [hwire, decode_of_attach h'] at hmessage
    exact congrArg (fun m => m.key.der) (Except.ok.inj hmessage).symm
  · intro hkey
    have hmessage : d.messageWith signature = d'.messageWith signature := by
      unfold messageWith
      rw [hpayload, EmbeddedKey.eq_of_der_eq hkey]
    rw [attach_bytes, hmessage, ← attach_bytes, h'] at h
    exact (Except.ok.inj h).symm

/-! ### From a message to its draft -/

/-- The draft of a message writes the message again. -/
theorem attach_ofMessage (h : Message.decode data = .ok m) :
    (ofMessage m).attach (.bytes m.signature.bytes) = .ok data := by
  rw [attach_bytes]
  exact Message.decode_eq_ok_iff_encode.mp h

/-! ### What is signed -/

/-- The key has no part in what is signed. -/
theorem toBeSigned_congr (h : d.payload = d'.payload) : d.toBeSigned = d'.toBeSigned := by
  unfold toBeSigned
  rw [h]

/-- What is written for a draft is read as a message with its payload, its key and the signature,
and the draft of this message has the same bytes to be signed. With another key these bytes stay the
same and those of the message change. A payload without a length in CBOR makes neither. The draft of
any message that was read writes what was read. -/
theorem draft_agrees {payload signature : Bytes} {key : Option Bytes}
    (hsignature : signature.length = 256) (hkey : (key.getD []).length ≤ 312) :
    (∃ d, ofSupplied (.bytes payload) (key.elim .absent .bytes) = .ok d ∧
      ((payload.length < 2 ^ 64 ∧ ∃ wire m toBeSigned,
          d.attach (.bytes signature) = .ok wire ∧ Message.decode wire = .ok m ∧
          m.payload = payload ∧ m.signature.bytes = signature ∧ m.key.der = key.getD [] ∧
          d.toBeSigned = .ok toBeSigned ∧ (ofMessage m).toBeSigned = .ok toBeSigned ∧
          ∀ key' : Option Bytes, (key'.getD []).length ≤ 312 → ∃ d' wire',
            ofSupplied (.bytes payload) (key'.elim .absent .bytes) = .ok d' ∧
            d'.toBeSigned = .ok toBeSigned ∧ d'.attach (.bytes signature) = .ok wire' ∧
            (wire = wire' ↔ key.getD [] = key'.getD [])) ∨
        (2 ^ 64 ≤ payload.length ∧
          d.toBeSigned = .error (.argumentOutOfRange payload.length) ∧
          d.attach (.bytes signature) = .error (.argumentOutOfRange payload.length)))) ∧
    ∀ data m, Message.decode data = .ok m →
      ofSupplied (.bytes m.payload) (.bytes m.key.der) = .ok (ofMessage m) ∧
      (ofMessage m).attach (.bytes m.signature.bytes) = .ok data := by
  refine ⟨?_, fun data m h => ⟨ofSupplied_bytes m.key, attach_ofMessage h⟩⟩
  obtain ⟨d, hdraft, rfl, hder⟩ := ofSupplied_optional payload hkey
  refine ⟨d, hdraft, ?_⟩
  let s : Signature := ⟨signature, hsignature⟩
  by_cases hlim : d.payload.length < argumentLimit
  · left
    have hattach : d.attach (.bytes s.bytes) = .ok (d.messageWith s).layout := attach_eq hlim
    refine ⟨hlim, (d.messageWith s).layout, d.messageWith s,
      ToBeSigned.layout protectedHeader d.payload, hattach, decode_of_attach hattach, rfl, rfl,
      hder, toBeSigned_eq hlim, toBeSigned_eq hlim, ?_⟩
    intro key' hkey'
    obtain ⟨d', hdraft', hpayload, hder'⟩ := ofSupplied_optional d.payload hkey'
    have hlim' : d'.payload.length < argumentLimit := by rwa [hpayload]
    have hattach' : d'.attach (.bytes s.bytes) = .ok (d'.messageWith s).layout := attach_eq hlim'
    refine ⟨d', (d'.messageWith s).layout, hdraft', ?_, hattach', ?_⟩
    · rw [toBeSigned_congr hpayload]
      exact toBeSigned_eq hlim
    · rw [← hder, ← hder']
      exact attach_inj_iff hpayload.symm hattach hattach'
  · right
    have hle := Nat.le_of_not_lt hlim
    refine ⟨hle, toBeSigned_of_le hle, ?_⟩
    have hattach : d.attach (.bytes s.bytes) = (d.messageWith s).encode := attach_bytes d s
    rw [Message.encode_eq] at hattach
    rw [hattach]
    exact if_neg hlim

/-- Of a payload and a key that look like items, the key goes to the wire and is not signed. -/
theorem draft_agrees_lookalikes : ∃ d d' m wire wire' toBeSigned,
    ofSupplied (.bytes [0x41, 0xf8]) (.bytes [0x58]) = .ok d ∧
    ofSupplied (.bytes [0x41, 0xf8]) .absent = .ok d' ∧
    d.attach (.bytes (List.replicate 256 0xd2)) = .ok wire ∧
    d'.attach (.bytes (List.replicate 256 0xd2)) = .ok wire' ∧ wire ≠ wire' ∧
    d.toBeSigned = .ok toBeSigned ∧ d'.toBeSigned = .ok toBeSigned ∧
    Message.decode wire = .ok m ∧ m.payload = [0x41, 0xf8] ∧ m.key.der = [0x58] ∧
    (ofMessage m).attach (.bytes m.signature.bytes) = .ok wire := by
  obtain ⟨⟨d, hdraft, hcases⟩, hback⟩ := @draft_agrees [0x41, 0xf8] (List.replicate 256 0xd2)
    (some [0x58]) List.length_replicate (by decide)
  obtain ⟨-, wire, m, toBeSigned, hattach, hread, hpayload, -, hkey, hsigned, -, hkeys⟩ |
    ⟨hlong, -⟩ := hcases
  · obtain ⟨d', wire', hdraft', hsigned', hattach', hiff⟩ := hkeys none (by decide)
    have hne : wire ≠ wire' := fun h => absurd (hiff.mp h) (by decide)
    exact ⟨d, d', m, wire, wire', toBeSigned, hdraft, hdraft', hattach, hattach', hne, hsigned,
      hsigned', hread, hpayload, hkey, (hback wire m hread).2⟩
  · exact absurd hlong (by decide)

end Draft

end Rs256Cose
