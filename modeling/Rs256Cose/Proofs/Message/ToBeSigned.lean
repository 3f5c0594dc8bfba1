import Mathlib
import Rs256Cose.Message.Draft
import Rs256Cose.Proofs.Cbor.Sequence

/-!
# The bytes that are signed, item by item

`layout` is the array that is signed as the items it consists of. The writer fills a buffer item
by item (`writeItems_eq`), and what it writes in the end is the layout (`writeInto_eq`,
`encode_eq`), so the length computed beforehand is never wrong and a draft's own buffer
(`Draft.toBeSigned_eq`) holds the same bytes. The layout tells apart what it is made of
(`layout_append_inj`), so what is signed for one header and payload is neither that for others nor
the start of it (`encode_separates`).
-/

namespace Rs256Cose

open Profile Cbor Bytes

namespace ToBeSigned

/-- The array that is signed, item by item. -/
def layout (header payload : Bytes) : Bytes :=
  opening ++ (byteString header ++ byteString [] ++ byteString payload)

/-- Exactly a header and a payload that have lengths in CBOR have a length together, that of the
layout. -/
theorem size_eq_ok_iff {header payload : Bytes} {n : Nat} :
    size header.length payload.length = .ok n ↔ header.length < argumentLimit ∧
      payload.length < argumentLimit ∧ (layout header payload).length = n := by
  have hexternal : byteStringSize 0 = .ok (byteString []).length := rfl
  simp only [size, byteStringSize_length, hexternal, do_eq_ok_iff, pure, Except.pure]
  refine ⟨?_, ?_⟩
  · rintro ⟨a, ha, b, hb, c, hc, hn⟩
    split_ifs at ha hc with hheader hpayload
    cases ha
    cases hb
    cases hc
    cases hn
    refine ⟨hheader, hpayload, ?_⟩
    simp only [layout, List.length_append, Nat.add_assoc]
  · rintro ⟨hheader, hpayload, hn⟩
    refine ⟨_, if_pos hheader, _, rfl, _, if_pos hpayload, ?_⟩
    simp only [← hn, layout, List.length_append, Nat.add_assoc]

theorem size_eq {header payload : Bytes} (hheader : header.length < argumentLimit)
    (hpayload : payload.length < argumentLimit) :
    size header.length payload.length = .ok (layout header payload).length :=
  size_eq_ok_iff.mpr ⟨hheader, hpayload, rfl⟩

/-- A payload without a length in CBOR is refused for it. -/
theorem size_of_le {header payload : Bytes} (hheader : header.length < argumentLimit)
    (hpayload : argumentLimit ≤ payload.length) :
    size header.length payload.length = .error (.argumentOutOfRange payload.length) := by
  have hexternal : byteStringSize 0 = .ok (byteString []).length := rfl
  simp only [size, byteStringSize_length, hexternal, if_pos hheader,
    if_neg (Nat.not_lt.mpr hpayload), bind, Except.bind]

/-- The three items behind the opening. -/
theorem flatMap_items (header payload : Bytes) : [header, [], payload].flatMap byteString =
    byteString header ++ byteString [] ++ byteString payload := by
  simp only [List.flatMap_cons, List.flatMap_nil, List.append_nil, List.append_assoc]

theorem length_items_lt {header payload : Bytes} (hheader : header.length < argumentLimit)
    (hpayload : payload.length < argumentLimit) :
    ∀ data ∈ [header, [], payload], data.length < argumentLimit := by
  simp only [List.forall_mem_cons, List.not_mem_nil, false_imp_iff, implies_true, and_true]
  exact ⟨hheader, by decide, hpayload⟩

/-- Items that can be written appear one after the other, whatever the buffer held. -/
theorem writeItems_eq {items : List Bytes} (hitems : ∀ data ∈ items, data.length < argumentLimit)
    {out : Bytes} {pos : Nat} (hpos : pos + (items.flatMap byteString).length ≤ out.length) :
    writeItems out pos items = (.ok (pos + (items.flatMap byteString).length),
      out.overwriteAt pos (items.flatMap byteString)) := by
  induction items generalizing out pos with
  | nil => simp only [writeItems, List.flatMap_nil, List.length_nil, Nat.add_zero, overwriteAt_nil]
  | cons data rest ih =>
    obtain ⟨hdata, hrest⟩ := List.forall_mem_cons.mp hitems
    simp only [List.flatMap_cons, List.length_append] at hpos ⊢
    have hlength : (out.overwriteAt pos (byteString data)).length = out.length := by
      rw [length_overwriteAt (by omega)]
    unfold writeItems
    rw [encodeByteString_of_lt hdata]
    simp only
    rw [ih hrest (by omega), overwriteAt_append _ _ (by omega), Nat.add_assoc]

/-- A buffer with room for the layout starts with it afterwards; a shorter one is left alone. -/
theorem writeInto_eq {header payload : Bytes} (out : Bytes)
    (hheader : header.length < argumentLimit) (hpayload : payload.length < argumentLimit) :
    writeInto header payload out = if out.length < (layout header payload).length
      then (.error (.noRoomForToBeSigned (layout header payload).length out.length), out)
      else (.ok (layout header payload).length, out.overwrite (layout header payload)) := by
  have hsize : (layout header payload).length =
      opening.length + ([header, [], payload].flatMap byteString).length := by
    rw [flatMap_items, layout, List.length_append]
  unfold writeInto
  rw [size_eq hheader hpayload]
  simp only
  split_ifs with hroom
  · rfl
  -- the opening was written first, so the items continue it
  · have hopening : opening.length ≤ out.length := by omega
    rw [writeItems_eq (length_items_lt hheader hpayload)
        (by rw [length_overwrite hopening]; omega), ← hsize, flatMap_items,
      ← overwriteAt_zero, ← Nat.zero_add opening.length, overwriteAt_append _ _ (Nat.zero_le _),
      overwriteAt_zero]
    simp only [ne_eq, not_true, if_false, layout]

/-- A buffer of the length that was computed becomes the layout. -/
theorem writeInto_replicate {header payload : Bytes} (hheader : header.length < argumentLimit)
    (hpayload : payload.length < argumentLimit) :
    writeInto header payload (List.replicate (layout header payload).length 0) =
      (.ok (layout header payload).length, layout header payload) := by
  rw [writeInto_eq _ hheader hpayload, List.length_replicate, if_neg (lt_irrefl _),
    overwrite_replicate]

theorem encode_eq {header payload : Bytes} (hheader : header.length < argumentLimit)
    (hpayload : payload.length < argumentLimit) :
    encode header payload = .ok (layout header payload) := by
  simp only [encode, size_eq hheader hpayload, bind, Except.bind,
    writeInto_replicate hheader hpayload, Except.map, List.take_length]

/-- Where layouts begin two byte strings that are the same, their headers and payloads are the
same, and so is what follows. -/
theorem layout_append_inj {header header' payload payload' rest rest' : Bytes}
    (hheader : header.length < argumentLimit) (hheader' : header'.length < argumentLimit)
    (hpayload : payload.length < argumentLimit) (hpayload' : payload'.length < argumentLimit)
    (h : layout header payload ++ rest = layout header' payload' ++ rest') :
    header = header' ∧ payload = payload' ∧ rest = rest' := by
  rw [layout, layout, ← flatMap_items, ← flatMap_items, List.append_assoc, List.append_assoc] at h
  obtain ⟨hitems, hrest⟩ := flatMap_byteString_append_inj (length_items_lt hheader hpayload)
    (length_items_lt hheader' hpayload') rfl (List.append_cancel_left h)
  cases hitems
  exact ⟨rfl, rfl, hrest⟩

/-- The layout tells headers apart and payloads apart. -/
theorem layout_inj {header header' payload payload' : Bytes}
    (hheader : header.length < argumentLimit) (hheader' : header'.length < argumentLimit)
    (hpayload : payload.length < argumentLimit) (hpayload' : payload'.length < argumentLimit)
    (h : layout header payload = layout header' payload') :
    header = header' ∧ payload = payload' := by
  have happend : layout header payload ++ [] = layout header' payload' ++ [] := by rw [h]
  obtain ⟨rfl, rfl, -⟩ := layout_append_inj hheader hheader' hpayload hpayload' happend
  exact ⟨rfl, rfl⟩

/-- A layout that begins another one is this layout. -/
theorem layout_eq_of_front {header header' payload payload' : Bytes}
    (hheader : header.length < argumentLimit) (hheader' : header'.length < argumentLimit)
    (hpayload : payload.length < argumentLimit) (hpayload' : payload'.length < argumentLimit)
    (h : layout header payload <+: layout header' payload') :
    layout header payload = layout header' payload' := by
  obtain ⟨rest, hrest⟩ := h
  have happend : layout header payload ++ rest = layout header' payload' ++ [] := by
    rw [hrest, List.append_nil]
  obtain ⟨rfl, rfl, -⟩ := layout_append_inj hheader hheader' hpayload hpayload' happend
  rfl

/-- What is signed belongs to one protected header and one payload, and is not a proper front part
of what is signed for any others. -/
theorem encode_separates {header header' payload payload' : Bytes}
    (hheader : header.length < 2 ^ 64) (hpayload : payload.length < 2 ^ 64)
    (hheader' : header'.length < 2 ^ 64) (hpayload' : payload'.length < 2 ^ 64) :
    ∃ wire wire', encode header payload = .ok wire ∧ encode header' payload' = .ok wire' ∧
      (wire = wire' → header = header' ∧ payload = payload') ∧
      ¬ (wire <+: wire' ∧ wire ≠ wire') ∧ ¬ (wire' <+: wire ∧ wire' ≠ wire) := by
  refine ⟨layout header payload, layout header' payload', encode_eq hheader hpayload,
    encode_eq hheader' hpayload', ?_, ?_, ?_⟩
  · intro h
    exact layout_inj hheader hheader' hpayload hpayload' h
  · intro ⟨hfront, hne⟩
    exact hne (layout_eq_of_front hheader hheader' hpayload hpayload' hfront)
  · intro ⟨hfront, hne⟩
    exact hne (layout_eq_of_front hheader' hheader hpayload' hpayload hfront)

/-- A header that looks like an item and a payload that does. -/
theorem encode_separates_lookalikes :
    ∃ wire wire', encode [0x40] [] = .ok wire ∧ encode [] [0x40] = .ok wire' ∧
      (wire = wire' → ([0x40] : Bytes) = [] ∧ [] = ([0x40] : Bytes)) ∧
      ¬ (wire <+: wire' ∧ wire ≠ wire') ∧ ¬ (wire' <+: wire ∧ wire' ≠ wire) :=
  encode_separates (by decide) (by decide) (by decide) (by decide)

end ToBeSigned

/-- A draft is signed over the array for the one protected header and its payload. -/
theorem Draft.toBeSigned_eq {d : Draft} (hpayload : d.payload.length < argumentLimit) :
    d.toBeSigned = .ok (ToBeSigned.layout protectedHeader d.payload) := by
  have hheader : protectedHeader.length < argumentLimit := by decide
  simp only [toBeSigned, ToBeSigned.size_eq hheader hpayload, bind, Except.bind,
    ToBeSigned.writeInto_replicate hheader hpayload, ne_eq, not_true, if_false, pure, Except.pure]

theorem Draft.toBeSigned_of_le {d : Draft} (h : argumentLimit ≤ d.payload.length) :
    d.toBeSigned = .error (.argumentOutOfRange d.payload.length) := by
  have hheader : protectedHeader.length < argumentLimit := by decide
  unfold toBeSigned
  rw [ToBeSigned.size_of_le hheader h]
  rfl

theorem Draft.digest_eq {d : Draft} (hpayload : d.payload.length < argumentLimit) :
    d.digest = .ok (sha256 (ToBeSigned.layout protectedHeader d.payload)) := by
  unfold digest
  rw [toBeSigned_eq hpayload]
  rfl

end Rs256Cose
