import Mathlib
import Rs256Cose.Proofs.Cbor.Truncation
import Rs256Cose.Proofs.Message.Wire

/-!
# No message is the start of another

Each reader of the decoder answers on the front part of a message as on the whole, until its item
ends beyond that part. So a message cut short is refused for ending too early, wherever the cut is,
and a message with more bytes behind it for these bytes (`decode_prefixFree`).
-/

namespace Rs256Cose.Message

open Profile Cbor Bytes

theorem readKeyMap_readsUpTo {front rest : Bytes} {key : EmbeddedKey} {pos next : Int}
    (hat : StandsAt (front ++ rest) (keyMap key) pos next) :
    ReadsUpTo front.length next (readKeyMap front pos) (key, next) := by
  obtain ⟨q, hat, hder⟩ := standsAt_append_iff.mp hat
  obtain ⟨p, hmap, hlabel⟩ := standsAt_append_iff.mp hat
  have hp : p ≤ q := hlabel.2.1
  have hq : q ≤ next := hder.2.1
  have hmap := expectHead_readsUpTo (h := ⟨.map, 1⟩) "unprotected header" (by decide) hmap
  refine hmap.bind (hp.trans hq) fun _ => ?_
  refine (readUnsigned_readsUpTo (by decide) hlabel).bind hq fun _ => ?_
  simp only [ne_eq, not_true, if_false]
  refine (readByteString_readsUpTo (length_key_lt key) hder).bind le_rfl fun hle => .of_ok ?_ hle
  exact dif_pos key.length_le

/-- A reader that reaches the cut finds it: the front part of a layout ends too early. -/
theorem decode_front {front rest : Bytes} {m : Message} (hlim : m.payload.length < argumentLimit)
    (hlayout : m.layout = front ++ rest) (hrest : rest ≠ []) :
    ∃ e : DecodeError, e.IsTruncation ∧ decode front = .error e := by
  obtain ⟨p, q, r, s, htag, harray, hheader, hkey, hpayload, hsignature⟩ :=
    standsAt_layout_iff.mp (standsAt_whole_iff.mpr hlayout)
  cases front with
  | nil => exact ⟨.emptyInput, trivial, rfl⟩
  | cons first front =>
    obtain rfl : first = tagByte := Option.some.inj htag
    have hq : q ≤ r := hkey.2.1
    have hr : r ≤ s := hpayload.2.1
    have hs := hsignature.2.1
    have hcut : ((tagByte :: front).length : Int) < (tagByte :: front ++ rest).length := by
      have hlength := List.length_pos_iff.mpr hrest
      rw [List.length_append]
      omega
    refine ReadsUpTo.cut (a := m) ?_ hcut
    simp only [decode, ne_eq, not_true, if_false]
    have harray := expectHead_readsUpTo (h := ⟨.array, 4⟩) "COSE_Sign1 array" (by decide) harray
    refine harray.bind (hheader.2.1.trans (hq.trans (hr.trans hs))) fun _ => ?_
    refine (readByteString_readsUpTo (by decide) hheader).bind (hq.trans (hr.trans hs)) fun _ => ?_
    refine (readKeyMap_readsUpTo hkey).bind (hr.trans hs) fun _ => ?_
    refine (readByteString_readsUpTo hlim hpayload).bind hs fun _ => ?_
    have hlast := readByteString_readsUpTo (length_signature_lt m.signature) hsignature
    exact hlast.bind le_rfl fun hle => absurd hcut (not_lt.mpr hle)

/-- Of a byte string that is a message, no proper front part is one, and none that it is a proper
front part of. The first ends too early, wherever it is cut, and in the second the bytes after the
message are too many. -/
theorem decode_prefixFree {data : Bytes} {m : Message} (h : decode data = .ok m) :
    (∀ front, front <+: data → front ≠ data →
      ∃ e : DecodeError, e.IsTruncation ∧ decode front = .error e) ∧
    ∀ rest, rest ≠ [] → decode (data ++ rest) = .error (.trailingBytes rest.length) := by
  obtain ⟨hlim, rfl⟩ := decode_eq_ok_iff.mp h
  refine ⟨?_, ?_⟩
  · rintro front ⟨rest, hlayout⟩ hne
    have hrest : rest ≠ [] := by
      rintro rfl
      exact hne (by rw [← hlayout, List.append_nil])
    exact decode_front hlim hlayout.symm hrest
  · intro rest hrest
    have hlength := List.length_pos_iff.mpr hrest
    rw [decode_of_standsAt hlim (standsAt_front m.layout rest), List.length_append,
      if_neg (by omega), Nat.cast_add, add_sub_cancel_left]

theorem decode_prefixFree_specimen : decode specimen.layout = .ok specimen ∧
    (∃ e : DecodeError, e.IsTruncation ∧ decode (specimen.layout.take 40) = .error e) ∧
    decode (specimen.layout ++ [tagByte]) = .error (.trailingBytes 1) := by
  have hdecode : decode specimen.layout = .ok specimen := decode_layout (by decide)
  obtain ⟨hfront, hrest⟩ := decode_prefixFree hdecode
  have hne : specimen.layout.take 40 ≠ specimen.layout := by decide +kernel
  exact ⟨hdecode, hfront _ (List.take_prefix 40 _) hne, hrest [tagByte] (by decide)⟩

end Rs256Cose.Message
