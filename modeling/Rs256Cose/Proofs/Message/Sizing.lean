import Mathlib
import Rs256Cose.Proofs.Cbor.Item
import Rs256Cose.Proofs.Message.Wire

/-!
# The length computed beforehand

The length of a wire form is computed from the widths of its heads before an encoder that knows
nothing of these is handed the message as an item. The two agree for every message: the item has a
shortest form if and only if its payload is below the limit of CBOR lengths
(`shortestForm_item_iff`), this form is the row of parts that the primitives write
(`encode_eq_parts`), and no write ends because the encoder produced something else
(`writeInto_ne_messageSize`).
-/

namespace Rs256Cose.Message

open Profile Cbor Bytes

/-- Whatever keeps to shortest heads writes a message as its layout. -/
theorem shortestForm_item_iff {m : Message} {form : Bytes} :
    m.item.ShortestForm form ↔ m.payload.length < argumentLimit ∧ form = m.layout := by
  rw [← Item.encode_eq_ok_iff, item_encode_eq]
  split_ifs with hlim
  · simp only [Except.ok.injEq, hlim, true_and, eq_comm]
  · simp only [hlim, false_and]

section

variable (m : Message) (out : Bytes)

/-- A write answers with the length, or that there is no length, or that there is no room. -/
theorem writeInto_answers : (m.writeInto out).1 = .ok m.layout.length ∨
    (m.writeInto out).1 = .error (.argumentOutOfRange m.payload.length) ∨
    (m.writeInto out).1 = .error (.noRoomForMessage m.layout.length out.length) := by
  by_cases hlim : m.payload.length < argumentLimit
  · rw [writeInto_eq out hlim]
    split_ifs
    · exact .inr (.inr rfl)
    · exact .inl rfl
  · refine .inr (.inl ?_)
    unfold writeInto
    rw [size_eq, if_neg hlim]

theorem writeInto_ne_messageSize (computed produced : Nat) :
    (m.writeInto out).1 ≠ .error (.messageSize computed produced) := by
  rcases writeInto_answers m out with h | h | h <;> rw [h] <;> rintro ⟨⟩

theorem writeInto_ne_messageNotEncoded :
    (m.writeInto out).1 ≠ .error .messageNotEncoded := by
  rcases writeInto_answers m out with h | h | h <;> rw [h] <;> rintro ⟨⟩

end

/-- The length computed beforehand, the parts that the primitives write and the form that a
library writes belong to the same bytes, for every payload that has a length in CBOR. -/
theorem encode_eq_parts (m : Message) (hlim : m.payload.length < 2 ^ 64) :
    ∃ wire array header map label key payload signature,
      m.encode = .ok wire ∧ m.size = .ok wire.length ∧
      encodeHead MajorType.array.code 4 = .ok array ∧
      encodeByteString protectedHeader = .ok header ∧
      encodeHead MajorType.map.code 1 = .ok map ∧
      encodeHead MajorType.unsigned.code 248 = .ok label ∧
      encodeByteString m.key.der = .ok key ∧
      encodeByteString m.payload = .ok payload ∧
      encodeByteString m.signature.bytes = .ok signature ∧
      wire = [0xd2] ++ array ++ header ++ map ++ label ++ key ++ payload ++ signature ∧
      (∀ form, m.item.ShortestForm form ↔ form = wire) ∧
      ∀ out, (m.writeInto out).1 ≠ .error .messageNotEncoded ∧
        ∀ computed produced, (m.writeInto out).1 ≠ .error (.messageSize computed produced) := by
  have hlim : m.payload.length < argumentLimit := hlim
  have hencode : m.encode = .ok m.layout := by rw [encode_eq, if_pos hlim]
  have hsize : m.size = .ok m.layout.length := by rw [size_eq, if_pos hlim]
  have hbytes : ∀ data : Bytes, data.length < argumentLimit →
      encodeByteString data = .ok (byteString data) := fun data h => by
    rw [encodeByteString_eq, if_pos h]
  have hparts : m.layout = [0xd2] ++ Head.encode ⟨.array, 4⟩ ++ byteString protectedHeader ++
      Head.encode ⟨.map, 1⟩ ++ Head.encode ⟨.unsigned, 248⟩ ++ byteString m.key.der ++
      byteString m.payload ++ byteString m.signature.bytes := by
    simp only [layout, keyMap, tagByte, keyLabel, List.append_assoc]
  refine ⟨m.layout, _, _, _, _, _, _, _, hencode, hsize, rfl, rfl, rfl, rfl,
    hbytes _ (length_key_lt m.key), hbytes _ hlim, hbytes _ (length_signature_lt m.signature),
    hparts, fun form => ?_, fun out =>
      ⟨writeInto_ne_messageNotEncoded m out, writeInto_ne_messageSize m out⟩⟩
  rw [shortestForm_item_iff, and_iff_right hlim]

/-- Payload and key at boundaries of their length prefixes. -/
def boundarySpecimen : Message where
  payload := List.replicate (2 ^ 32) 0x5b
  signature := ⟨List.replicate 256 0x58, List.length_replicate⟩
  key := ⟨List.replicate 256 0x59, by rw [List.length_replicate]; decide⟩

theorem encode_eq_parts_boundarySpecimen :
    boundarySpecimen.payload.length < 2 ^ 64 ∧
    ∃ wire array header map label key payload signature,
      boundarySpecimen.encode = .ok wire ∧ boundarySpecimen.size = .ok wire.length ∧
      encodeHead MajorType.array.code 4 = .ok array ∧
      encodeByteString protectedHeader = .ok header ∧
      encodeHead MajorType.map.code 1 = .ok map ∧
      encodeHead MajorType.unsigned.code 248 = .ok label ∧
      encodeByteString boundarySpecimen.key.der = .ok key ∧
      encodeByteString boundarySpecimen.payload = .ok payload ∧
      encodeByteString boundarySpecimen.signature.bytes = .ok signature ∧
      wire = [0xd2] ++ array ++ header ++ map ++ label ++ key ++ payload ++ signature ∧
      (∀ form, boundarySpecimen.item.ShortestForm form ↔ form = wire) ∧
      ∀ out, (boundarySpecimen.writeInto out).1 ≠ .error .messageNotEncoded ∧
        ∀ computed produced,
          (boundarySpecimen.writeInto out).1 ≠ .error (.messageSize computed produced) := by
  have hlim : boundarySpecimen.payload.length < 2 ^ 64 := by
    simp only [boundarySpecimen, List.length_replicate]
    decide
  exact ⟨hlim, encode_eq_parts boundarySpecimen hlim⟩

end Rs256Cose.Message
