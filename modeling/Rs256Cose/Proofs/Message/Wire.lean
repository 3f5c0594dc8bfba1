import Mathlib
import Rs256Cose.Message.Wire
import Rs256Cose.Proofs.Cbor.ByteString

/-!
# The wire form is canonical

`layout` is the wire form of a message as the items it consists of. `encode` gives it for every
payload below the limit of CBOR lengths (`encode_eq`), and `decode` accepts nothing but the layout
of its result (`decode_eq_ok_iff`). So a message has one wire form and is read back from it.
-/

namespace Rs256Cose

open Profile Cbor Bytes

/-! ### Making messages -/

theorem EmbeddedKey.ofBytes_der (key : EmbeddedKey) : ofBytes key.der = .ok key := by
  unfold ofBytes
  rw [dif_pos key.length_le]

theorem EmbeddedKey.eq_of_der_eq {key key' : EmbeddedKey} (h : key.der = key'.der) :
    key = key' := by
  cases key
  cases key'
  simp only at h
  subst h
  rfl

theorem Signature.eq_of_bytes_eq {s s' : Signature} (h : s.bytes = s'.bytes) : s = s' := by
  cases s
  cases s'
  simp only at h
  subst h
  rfl

theorem Signature.ofSupplied_bytes (signature : Signature) :
    ofSupplied (.bytes signature.bytes) = .ok signature := by
  simp only [ofSupplied, Supplied.toBytes, Except.bind, ofBytes, dif_pos signature.length_eq]

namespace Message

/-- A message is made of its own parts. -/
theorem ofSupplied_bytes (m : Message) :
    ofSupplied (.bytes m.payload) (.bytes m.signature.bytes) m.key (.bytes protectedHeader) =
      .ok m := by
  simp only [ofSupplied, Signature.ofSupplied_bytes, Supplied.toBytes, bind, Except.bind, ne_eq,
    not_true, if_false, pure, Except.pure]

/-! ### Writing -/

/-- The header map that holds a key. -/
def keyMap (key : EmbeddedKey) : Bytes :=
  Head.encode ⟨.map, 1⟩ ++ Head.encode ⟨.unsigned, keyLabel⟩ ++ byteString key.der

/-- The wire form, item by item. -/
def layout (m : Message) : Bytes :=
  [tagByte] ++ Head.encode ⟨.array, 4⟩ ++ byteString protectedHeader ++ keyMap m.key ++
    byteString m.payload ++ byteString m.signature.bytes

theorem length_key_lt (key : EmbeddedKey) : key.der.length < argumentLimit :=
  lt_of_le_of_lt key.length_le (by decide)

theorem length_signature_lt (signature : Signature) : signature.bytes.length < argumentLimit := by
  rw [signature.length_eq]
  decide

theorem item_encode_eq (m : Message) :
    m.item.encode = if m.payload.length < argumentLimit then .ok m.layout
      else .error (.argumentOutOfRange m.payload.length) := by
  have htag : MajorType.tag.head (18 : Nat) = .ok [tagByte] := rfl
  have harray : MajorType.array.head (4 : Nat) = .ok (Head.encode ⟨.array, 4⟩) := rfl
  have hmap : MajorType.map.head (1 : Nat) = .ok (Head.encode ⟨.map, 1⟩) := rfl
  have hlabel : MajorType.unsigned.head keyLabel = .ok (Head.encode ⟨.unsigned, keyLabel⟩) := rfl
  have hheader : encodeByteString protectedHeader = .ok (byteString protectedHeader) := rfl
  have hkey := encodeByteString_of_lt (length_key_lt m.key)
  have hsignature := encodeByteString_of_lt (length_signature_lt m.signature)
  simp only [item, Item.encode, encodeItems, encodeEntries, encodeEntry, List.length_cons,
    List.length_nil, Nat.zero_add, Nat.reduceAdd, htag, harray, hmap, hlabel, hheader, hkey,
    hsignature, encodeByteString_eq m.payload]
  split_ifs
  · simp only [bind, Except.bind, pure, Except.pure, layout, keyMap, List.append_assoc,
      List.append_nil]
  · rfl

/-- The length computed beforehand is that of the layout. -/
theorem size_eq (m : Message) :
    m.size = if m.payload.length < argumentLimit then .ok m.layout.length
      else .error (.argumentOutOfRange m.payload.length) := by
  have harray : headSize 4 = .ok 1 := rfl
  have hmap : headSize 1 = .ok 1 := rfl
  have hlabel : headSize keyLabel = .ok 2 := rfl
  have hheader : byteStringSize protectedHeader.length = .ok (byteString protectedHeader).length :=
    rfl
  simp only [size, keyMapSize, harray, hmap, hlabel, hheader, byteStringSize_length,
    if_pos (length_key_lt m.key), if_pos (length_signature_lt m.signature)]
  split_ifs
  · have hheads : (Head.encode ⟨.array, 4⟩).length = 1 ∧ (Head.encode ⟨.map, 1⟩).length = 1 ∧
        (Head.encode ⟨.unsigned, keyLabel⟩).length = 2 := ⟨rfl, rfl, rfl⟩
    simp only [bind, Except.bind, pure, Except.pure, layout, keyMap, List.length_append,
      List.length_singleton, hheads]
  · rfl

/-- A buffer with room for the layout starts with it afterwards; a shorter one is left alone. -/
theorem writeInto_eq {m : Message} (out : Bytes) (hlim : m.payload.length < argumentLimit) :
    m.writeInto out = if out.length < m.layout.length
      then (.error (.noRoomForMessage m.layout.length out.length), out)
      else (.ok m.layout.length, out.overwrite m.layout) := by
  unfold writeInto
  rw [size_eq, item_encode_eq]
  simp only [if_pos hlim, ne_eq, not_true, if_false]

theorem encode_eq (m : Message) :
    m.encode = if m.payload.length < argumentLimit then .ok m.layout
      else .error (.argumentOutOfRange m.payload.length) := by
  unfold encode
  rw [size_eq]
  split_ifs with hlim
  · have hroom : ¬ (List.replicate m.layout.length (0 : UInt8)).length < m.layout.length := by
      simp only [List.length_replicate, lt_irrefl, not_false_eq_true]
    simp only [bind, Except.bind, writeInto_eq _ hlim, if_neg hroom, Except.map,
      overwrite_replicate]
  · rfl

/-! ### Reading -/

/-- The key map is read by its head, its label and the key, in this order. -/
theorem readKeyMap_eq_ok_iff_steps {buf : Bytes} {key : EmbeddedKey} {pos next : Int} :
    readKeyMap buf pos = .ok (key, next) ↔ ∃ p q,
      expectHead buf pos MajorType.map.code 1 "unprotected header" = .ok p ∧
      readUnsigned buf p = .ok (keyLabel, q) ∧ readByteString buf q = .ok (key.der, next) := by
  refine ⟨?_, ?_⟩
  · intro hread
    obtain ⟨p, hmap, hread⟩ := do_eq_ok_iff.mp hread
    obtain ⟨⟨label, q⟩, hlabel, hread⟩ := do_eq_ok_iff.mp hread
    simp only [ne_eq] at hread
    split_ifs at hread with h
    swap
    · cases hread
    obtain ⟨⟨der, r⟩, hder, hread⟩ := do_eq_ok_iff.mp hread
    simp only at hread
    split_ifs at hread
    cases hread
    exact ⟨p, q, hmap, h ▸ hlabel, hder⟩
  · rintro ⟨p, q, hmap, hlabel, hder⟩
    obtain ⟨der, hle⟩ := key
    simp only [readKeyMap, hmap, hlabel, hder, bind, Except.bind, pure, Except.pure, ne_eq,
      not_true, if_false, dif_pos hle]

/-- Exactly the key map is read where it stands. -/
theorem readKeyMap_eq_ok_iff {buf : Bytes} {key : EmbeddedKey} {pos next : Int} (hpos : 0 ≤ pos) :
    readKeyMap buf pos = .ok (key, next) ↔ StandsAt buf (keyMap key) pos next := by
  rw [readKeyMap_eq_ok_iff_steps]
  refine ⟨?_, ?_⟩
  · rintro ⟨p, q, hmap, hlabel, hder⟩
    obtain ⟨-, hmap⟩ := (expectHead_eq_ok_iff (h := ⟨.map, 1⟩) hpos).mp hmap
    obtain ⟨-, hlabel⟩ := standsAt_of_readUnsigned hmap.stop_nonneg hlabel
    obtain ⟨-, hder⟩ := standsAt_of_readByteString hlabel.stop_nonneg hder
    exact (hmap.append hlabel).append hder
  · intro hat
    obtain ⟨q, hat, hder⟩ := standsAt_append_iff.mp hat
    obtain ⟨p, hmap, hlabel⟩ := standsAt_append_iff.mp hat
    exact ⟨p, q, expectHead_of_standsAt (h := ⟨.map, 1⟩) _ (by decide) hmap,
      readUnsigned_of_standsAt (by decide) hlabel,
      readByteString_of_standsAt (length_key_lt key) hder⟩

theorem standsAt_tag_iff {data : Bytes} :
    StandsAt data [tagByte] 0 1 ↔ data.head? = some tagByte := by
  rw [standsAt_singleton_iff, byte?_of_nonneg le_rfl]
  simp [List.head?_eq_getElem?]

/-- A layout starts an input if and only if its parts follow each other there. -/
theorem standsAt_layout_iff {data : Bytes} {m : Message} {stop : Int} :
    StandsAt data m.layout 0 stop ↔ ∃ p q r s, data.head? = some tagByte ∧
      StandsAt data (Head.encode ⟨.array, 4⟩) 1 p ∧
      StandsAt data (byteString protectedHeader) p q ∧ StandsAt data (keyMap m.key) q r ∧
      StandsAt data (byteString m.payload) r s ∧
      StandsAt data (byteString m.signature.bytes) s stop := by
  refine ⟨?_, ?_⟩
  · intro hat
    obtain ⟨s, hat, hsignature⟩ := standsAt_append_iff.mp hat
    obtain ⟨r, hat, hpayload⟩ := standsAt_append_iff.mp hat
    obtain ⟨q, hat, hkey⟩ := standsAt_append_iff.mp hat
    obtain ⟨p, hat, hheader⟩ := standsAt_append_iff.mp hat
    obtain ⟨o, htag, harray⟩ := standsAt_append_iff.mp hat
    obtain rfl : o = 1 := htag.stop_eq
    exact ⟨p, q, r, s, standsAt_tag_iff.mp htag, harray, hheader, hkey, hpayload, hsignature⟩
  · rintro ⟨p, q, r, s, htag, harray, hheader, hkey, hpayload, hsignature⟩
    have htag := standsAt_tag_iff.mpr htag
    exact ((((htag.append harray).append hheader).append hkey).append hpayload).append hsignature

/-- A decoded message was read by the tag, the array head and its four items, up to the end. -/
theorem readers_of_decode {data : Bytes} {m : Message} (hread : decode data = .ok m) :
    ∃ p q r s, data.head? = some tagByte ∧
      expectHead data 1 MajorType.array.code 4 "COSE_Sign1 array" = .ok p ∧
      readByteString data p = .ok (protectedHeader, q) ∧ readKeyMap data q = .ok (m.key, r) ∧
      readByteString data r = .ok (m.payload, s) ∧
      readByteString data s = .ok (m.signature.bytes, data.length) := by
  cases data with
  | nil => cases hread
  | cons first rest =>
    simp only [decode, ne_eq] at hread
    split_ifs at hread with htag
    swap
    · cases hread
    obtain ⟨p, harray, hread⟩ := do_eq_ok_iff.mp hread
    obtain ⟨⟨header, q⟩, hheader, hread⟩ := do_eq_ok_iff.mp hread
    obtain ⟨⟨key, r⟩, hkey, hread⟩ := do_eq_ok_iff.mp hread
    obtain ⟨⟨payload, s⟩, hpayload, hread⟩ := do_eq_ok_iff.mp hread
    obtain ⟨⟨signature, t⟩, hsignature, hread⟩ := do_eq_ok_iff.mp hread
    simp only at hread
    split_ifs at hread with hend hprofile hlength
    all_goals cases hread
    subst hend hprofile
    exact ⟨p, q, r, s, congrArg some htag, harray, hheader, hkey, hpayload, hsignature⟩

/-- Once all parts are read, all that counts is whether the last one ends with the input. -/
theorem decode_of_readers {data : Bytes} {m : Message} {p q r s stop : Int}
    (htag : data.head? = some tagByte)
    (harray : expectHead data 1 MajorType.array.code 4 "COSE_Sign1 array" = .ok p)
    (hheader : readByteString data p = .ok (protectedHeader, q))
    (hkey : readKeyMap data q = .ok (m.key, r))
    (hpayload : readByteString data r = .ok (m.payload, s))
    (hsignature : readByteString data s = .ok (m.signature.bytes, stop)) :
    decode data =
      if stop = data.length then .ok m else .error (.trailingBytes (data.length - stop)) := by
  obtain ⟨payload, ⟨signature, hlength⟩, key⟩ := m
  cases data with
  | nil => cases htag
  | cons first rest =>
    obtain rfl : first = tagByte := Option.some.inj htag
    simp only [decode, harray, hheader, hkey, hpayload, hsignature, bind, Except.bind, pure,
      Except.pure, ne_eq, not_true, if_false]
    by_cases hend : stop = (tagByte :: rest).length
    · simp only [hend, not_true, if_false, if_true, dif_pos hlength]
    · simp only [hend, not_false_eq_true, if_true, if_false]
      rfl

/-- An input that starts with a layout is refused only for what follows it. -/
theorem decode_of_standsAt {data : Bytes} {m : Message} {stop : Int}
    (hlim : m.payload.length < argumentLimit) (hat : StandsAt data m.layout 0 stop) :
    decode data =
      if stop = data.length then .ok m else .error (.trailingBytes (data.length - stop)) := by
  obtain ⟨p, q, r, s, htag, harray, hheader, hkey, hpayload, hsignature⟩ :=
    standsAt_layout_iff.mp hat
  exact decode_of_readers htag (expectHead_of_standsAt (h := ⟨.array, 4⟩) _ (by decide) harray)
    (readByteString_of_standsAt (by decide) hheader)
    ((readKeyMap_eq_ok_iff hheader.stop_nonneg).mpr hkey)
    (readByteString_of_standsAt hlim hpayload)
    (readByteString_of_standsAt (length_signature_lt m.signature) hsignature)

/-- Decoding accepts exactly the layout of a message whose payload is below the limit. -/
theorem decode_eq_ok_iff {data : Bytes} {m : Message} :
    decode data = .ok m ↔ m.payload.length < argumentLimit ∧ m.layout = data := by
  rw [← standsAt_whole_iff]
  refine ⟨?_, ?_⟩
  · intro hread
    obtain ⟨p, q, r, s, htag, harray, hheader, hkey, hpayload, hsignature⟩ :=
      readers_of_decode hread
    -- every reader starts where the part before it ends
    obtain ⟨-, harray⟩ := (expectHead_eq_ok_iff (h := ⟨.array, 4⟩) (by omega)).mp harray
    obtain ⟨-, hheader⟩ := standsAt_of_readByteString harray.stop_nonneg hheader
    have hkey := (readKeyMap_eq_ok_iff hheader.stop_nonneg).mp hkey
    obtain ⟨hlim, hpayload⟩ := standsAt_of_readByteString hkey.stop_nonneg hpayload
    obtain ⟨-, hsignature⟩ := standsAt_of_readByteString hpayload.stop_nonneg hsignature
    exact ⟨hlim, standsAt_layout_iff.mpr
      ⟨p, q, r, s, htag, harray, hheader, hkey, hpayload, hsignature⟩⟩
  · rintro ⟨hlim, hat⟩
    rw [decode_of_standsAt hlim hat, if_pos rfl]

theorem decode_layout {m : Message} (hlim : m.payload.length < argumentLimit) :
    decode m.layout = .ok m :=
  decode_eq_ok_iff.mpr ⟨hlim, rfl⟩

/-! ### Both ways -/

/-- Decoding and encoding are inverse to each other wherever either succeeds. -/
theorem decode_eq_ok_iff_encode {data : Bytes} {m : Message} :
    decode data = .ok m ↔ m.encode = .ok data := by
  rw [decode_eq_ok_iff, encode_eq]
  split_ifs with hlim
  · simp [hlim]
  · simp [hlim]

/-- What is read is written back as the same bytes, and no other bytes are read as the same
message. -/
theorem encode_of_decode {data : Bytes} {m : Message} (h : decode data = .ok m) :
    m.encode = .ok data ∧ ∀ other, decode other = .ok m → other = data := by
  have hencode := decode_eq_ok_iff_encode.mp h
  refine ⟨hencode, fun other hother => ?_⟩
  have hother := decode_eq_ok_iff_encode.mp hother
  rw [hencode] at hother
  exact (Except.ok.inj hother).symm

/-- A message whose payload and key look like heads of CBOR items. -/
def specimen : Message where
  payload := List.replicate 24 0x58
  signature := ⟨List.replicate 256 0xd2, List.length_replicate⟩
  key := ⟨[0x18, 0xf8], by decide⟩

theorem encode_of_decode_specimen : decode specimen.layout = .ok specimen ∧
    specimen.encode = .ok specimen.layout ∧
    ∀ other, decode other = .ok specimen → other = specimen.layout := by
  have hdecode : decode specimen.layout = .ok specimen := by decide +kernel
  exact ⟨hdecode, encode_of_decode hdecode⟩

/-- Every payload below the limit, signature of full length and key of at most the limit, or no
key, make a message that is read back from its wire form. -/
theorem decode_of_encode {payload signature : Bytes} {key : Option Bytes}
    (hpayload : payload.length < 2 ^ 64) (hsignature : signature.length = 256)
    (hkey : (key.getD []).length ≤ 312) : ∃ header m wire,
      EmbeddedKey.ofSupplied (key.elim .absent .bytes) = .ok header ∧
      Message.ofSupplied (.bytes payload) (.bytes signature) header (.bytes protectedHeader) =
        .ok m ∧
      m.encode = .ok wire ∧ decode wire = .ok m ∧
      m.payload = payload ∧ m.signature.bytes = signature ∧ m.key.der = key.getD [] := by
  let m : Message := ⟨payload, ⟨signature, hsignature⟩, ⟨key.getD [], hkey⟩⟩
  have hheader : EmbeddedKey.ofSupplied (key.elim .absent .bytes) = .ok m.key := by
    cases key with
    | none => rfl
    | some der => exact EmbeddedKey.ofBytes_der m.key
  have hlim : m.payload.length < argumentLimit := hpayload
  have hencode : m.encode = .ok m.layout := by rw [encode_eq, if_pos hlim]
  exact ⟨m.key, m, m.layout, hheader, ofSupplied_bytes m, hencode,
    decode_eq_ok_iff_encode.mpr hencode, rfl, rfl, rfl⟩

theorem decode_of_encode_wide : ∃ header m wire,
    EmbeddedKey.ofSupplied (.bytes (List.replicate 312 0x59)) = .ok header ∧
    Message.ofSupplied (.bytes (List.replicate (2 ^ 32) 0x5b)) (.bytes (List.replicate 256 0))
      header (.bytes protectedHeader) = .ok m ∧
    m.encode = .ok wire ∧ decode wire = .ok m ∧ m.payload = List.replicate (2 ^ 32) 0x5b ∧
    m.signature.bytes = List.replicate 256 0 ∧ m.key.der = List.replicate 312 0x59 := by
  have hpayload : (List.replicate (2 ^ 32) (0x5b : UInt8)).length < 2 ^ 64 := by
    rw [List.length_replicate]
    decide
  have hsignature : (List.replicate 256 (0 : UInt8)).length = 256 := List.length_replicate
  have hkey : (Option.getD (some (List.replicate 312 (0x59 : UInt8))) []).length ≤ 312 := by
    rw [Option.getD_some, List.length_replicate]
  exact @decode_of_encode _ _ (some (List.replicate 312 0x59)) hpayload hsignature hkey

end Message

end Rs256Cose
