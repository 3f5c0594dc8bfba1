import Mathlib
import Rs256Cose.Proofs.Cbor.Checked
import Rs256Cose.Proofs.Message.Wire

/-!
# Decoding always answers

`Checked.decode` is the decoder with the checks of writing: it computes the lengths of heads and
builds the key and the message with the functions for supplied values, all of which refuse some
values. Each refusal is forestalled by a check that the decoder makes before (`Checked.decode_eq`),
and no position is ever reached that lies before the start (`decode_ne_beforeStart`). So decoding
gives a message or one of the decoder's own causes (`decode_answers`).
-/

namespace Rs256Cose.Message

open Profile Cbor Bytes

/-! ### Decoding with the checks of writing -/

namespace Checked

def readKeyMap (buf : Bytes) (pos : Int) : Except WireError (EmbeddedKey × Int) := do
  let pos ← Cbor.Checked.expectHead buf pos MajorType.map.code 1 "unprotected header"
  let (label, pos) ← Cbor.Checked.readUnsigned buf pos
  if label ≠ keyLabel then throw (.decode (.otherLabel label))
  let (der, pos) ← Cbor.Checked.readByteString buf pos
  if maxKeyLength < der.length then throw (.decode (.keyTooLong der.length))
  let key ← (EmbeddedKey.ofSupplied (.bytes der)).mapError .encode
  return (key, pos)

def decode (data : Bytes) : Except WireError Message := do
  match data with
  | [] => throw (.decode .emptyInput)
  | first :: _ => if first ≠ tagByte then throw (.decode (.otherTag first))
  let pos ← Cbor.Checked.expectHead data 1 MajorType.array.code 4 "COSE_Sign1 array"
  let (header, pos) ← Cbor.Checked.readByteString data pos
  let (key, pos) ← readKeyMap data pos
  let (payload, pos) ← Cbor.Checked.readByteString data pos
  let (signature, pos) ← Cbor.Checked.readByteString data pos
  if pos ≠ data.length then throw (.decode (.trailingBytes (data.length - pos)))
  if header ≠ protectedHeader then throw (.decode .foreignProtectedHeader)
  if signature.length ≠ signatureLength then
    throw (.decode (.signatureLength signature.length))
  (Message.ofSupplied (.bytes payload) (.bytes signature) key (.bytes header)).mapError .encode

/-- A key of at most the limit is never refused for a header. -/
theorem readKeyMap_eq (buf : Bytes) (pos : Int) :
    readKeyMap buf pos = (Message.readKeyMap buf pos).mapError .decode := by
  refine bind_eq_mapError (Checked.expectHead_eq ..) fun pos => ?_
  refine bind_eq_mapError (Checked.readUnsigned_eq ..) ?_
  rintro ⟨label, pos⟩
  by_cases hlabel : label = keyLabel
  · simp only [hlabel, ne_eq, not_true, if_false]
    refine bind_eq_mapError (Checked.readByteString_eq ..) ?_
    rintro ⟨der, pos⟩
    by_cases hle : der.length ≤ maxKeyLength
    · have hkey : EmbeddedKey.ofSupplied (.bytes der) = .ok ⟨der, hle⟩ :=
        EmbeddedKey.ofBytes_der ⟨der, hle⟩
      simp only [if_neg (Nat.not_lt.mpr hle), hkey, dif_pos hle]
      rfl
    · simp only [if_pos (Nat.lt_of_not_le hle), dif_neg hle]
      rfl
  · simp only [ne_eq, hlabel, not_false_eq_true, if_true]
    rfl

/-- What the checks of the decoder let through is never refused for a message. -/
theorem decode_eq (data : Bytes) : decode data = (Message.decode data).mapError .decode := by
  cases data with
  | nil => rfl
  | cons first rest =>
    by_cases htag : first = tagByte
    swap
    · simp only [decode, Message.decode, ne_eq, htag, not_false_eq_true, if_true]
      rfl
    simp only [decode, Message.decode, ne_eq, htag, not_true, if_false]
    refine bind_eq_mapError (Checked.expectHead_eq ..) fun pos => ?_
    refine bind_eq_mapError (Checked.readByteString_eq ..) ?_
    rintro ⟨header, pos⟩
    refine bind_eq_mapError (readKeyMap_eq ..) ?_
    rintro ⟨key, pos⟩
    refine bind_eq_mapError (Checked.readByteString_eq ..) ?_
    rintro ⟨payload, pos⟩
    refine bind_eq_mapError (Checked.readByteString_eq ..) ?_
    rintro ⟨signature, pos⟩
    -- the decoder's own checks come first, so what is built has passed them
    by_cases hend : pos = (tagByte :: rest).length
    swap
    · simp only [hend, not_false_eq_true, if_true]
      rfl
    by_cases hprofile : header = protectedHeader
    swap
    · simp only [hend, hprofile, not_true, not_false_eq_true, if_true, if_false]
      rfl
    subst hprofile
    by_cases hlength : signature.length = signatureLength
    · have hbuild := ofSupplied_bytes ⟨payload, ⟨signature, hlength⟩, key⟩
      simp only at hbuild
      simp only [hend, not_true, if_false, hlength, hbuild, dite_true]
      rfl
    · simp only [hend, hlength, not_true, not_false_eq_true, if_true, if_false, dite_false]
      rfl

end Checked

/-! ### Positions -/

theorem readKeyMap_ne_beforeStart {buf : Bytes} {pos : Int} (hpos : 0 ≤ pos) :
    readKeyMap buf pos ≠ .error .beforeStart := by
  refine bind_ne_error (expectHead_ne_beforeStart hpos _ _ _) fun p hmap => ?_
  obtain ⟨h, -, -, -, hmap⟩ := standsAt_of_expectHead hpos hmap
  refine bind_ne_error (readUnsigned_ne_beforeStart hmap.stop_nonneg) ?_
  rintro ⟨label, q⟩ hlabel
  obtain ⟨-, hlabel⟩ := standsAt_of_readUnsigned hmap.stop_nonneg hlabel
  simp only [ne_eq]
  split_ifs
  swap
  · rintro ⟨⟩
  refine bind_ne_error (readByteString_ne_beforeStart hlabel.stop_nonneg) ?_
  rintro ⟨der, r⟩ _
  simp only
  split_ifs <;> rintro ⟨⟩

/-- Every reader starts where the one before it stopped, which is within the input. -/
theorem decode_ne_beforeStart (data : Bytes) : decode data ≠ .error .beforeStart := by
  cases data with
  | nil => rintro ⟨⟩
  | cons first rest =>
    by_cases htag : first = tagByte
    swap
    · simp only [decode, ne_eq, htag, not_false_eq_true, if_true]
      rintro ⟨⟩
    simp only [decode, ne_eq, htag, not_true, if_false]
    refine bind_ne_error (expectHead_ne_beforeStart Int.one_nonneg _ _ _) fun p harray => ?_
    obtain ⟨h, -, -, -, harray⟩ := standsAt_of_expectHead Int.one_nonneg harray
    have hp := harray.stop_nonneg
    refine bind_ne_error (readByteString_ne_beforeStart hp) ?_
    rintro ⟨header, q⟩ hheader
    have hq := (standsAt_of_readByteString hp hheader).2.stop_nonneg
    refine bind_ne_error (readKeyMap_ne_beforeStart hq) ?_
    rintro ⟨key, r⟩ hkey
    have hr := ((readKeyMap_eq_ok_iff hq).mp hkey).stop_nonneg
    refine bind_ne_error (readByteString_ne_beforeStart hr) ?_
    rintro ⟨payload, s⟩ hpayload
    have hs := (standsAt_of_readByteString hr hpayload).2.stop_nonneg
    refine bind_ne_error (readByteString_ne_beforeStart hs) ?_
    rintro ⟨signature, t⟩ _
    simp only
    split_ifs <;> rintro ⟨⟩

/-! ### The answers -/

/-- Every byte string is a message or refused for a cause of the decoder's own, also if lengths are
computed and values built as in writing. A byte string whose head stands in the input is refused or
read by its length alone, whatever number below the limit of CBOR that is. -/
theorem decode_answers (data : Bytes) :
    ((∃ m, Checked.decode data = .ok m ∧ decode data = .ok m) ∨
      ∃ e, e ≠ .beforeStart ∧ Checked.decode data = .error (.decode e) ∧
        decode data = .error e) ∧
    ∀ (pos start : Int) (n : Nat), n < 2 ^ 64 → StandsAt data (Head.encode ⟨.bytes, n⟩) pos start →
      readByteString data pos = if data.length < start + n then .error (.truncatedByteString n)
        else .ok (data.slice start (start + n), start + n) := by
  refine ⟨?_, fun pos start n hlim hhead => readByteString_of_head hlim hhead⟩
  rw [Checked.decode_eq]
  cases hdecode : decode data with
  | ok m => exact .inl ⟨m, rfl, rfl⟩
  | error e =>
    have hne : e ≠ .beforeStart := by
      rintro rfl
      exact decode_ne_beforeStart data hdecode
    exact .inr ⟨e, hne, rfl, rfl⟩

/-- The start of a message whose header announces as many bytes as any length can. -/
def oversized : Bytes := [tagByte] ++ Head.encode ⟨.array, 4⟩ ++ Head.encode ⟨.bytes, 2 ^ 64 - 1⟩

theorem decode_answers_oversized :
    readByteString oversized 2 = .error (.truncatedByteString (2 ^ 64 - 1)) ∧
    decode oversized = .error (.truncatedByteString (2 ^ 64 - 1)) ∧
    Checked.decode oversized = .error (.decode (.truncatedByteString (2 ^ 64 - 1))) := by
  have hhead : StandsAt oversized (Head.encode ⟨.bytes, 2 ^ 64 - 1⟩) 2 11 :=
    standsAt_iff_exists.mpr ⟨[tagByte] ++ Head.encode ⟨.array, 4⟩, [], rfl, rfl, rfl⟩
  obtain ⟨hanswers, hlengths⟩ := decode_answers oversized
  have hread := hlengths 2 11 (2 ^ 64 - 1) (by decide) hhead
  have hdecode : decode oversized = .error (.truncatedByteString (2 ^ 64 - 1)) := by decide +kernel
  rcases hanswers with ⟨m, -, hm⟩ | ⟨e, -, hchecked, he⟩
  · rw [hdecode] at hm
    cases hm
  · rw [hdecode] at he
    cases he
    exact ⟨hread, hdecode, hchecked⟩

end Rs256Cose.Message
