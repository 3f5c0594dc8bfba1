import Mathlib
import Rs256Cose.Proofs.Buffers
import Rs256Cose.Proofs.Cbor.Item
import Rs256Cose.Proofs.Message.ToBeSigned
import Rs256Cose.Proofs.Message.Wire

/-!
# Writing into buffers of callers

A message and the bytes that are signed for it are written into the buffer of a caller once the
buffer was found to be long enough for the length that was computed. `storeInto` makes each of these
writes store by store. A store past the end, or one of more or fewer bytes than it has room for,
would be an error or change the length of the buffer. That none is shows in `runOn_storeInto`: the
stores lead to the answer and the buffer of `writeInto`. Such a write stores everything or nothing
(`Message.writeInto_allOrNothing`), and what is signed comes out as the shortest form of its array
(`ToBeSigned.writeInto_wholeArray`).
-/

namespace Rs256Cose

open Profile Cbor Bytes Storing

namespace Message

/-- The array of a message, which is encoded apart from its tag. -/
def untagged (m : Message) : Item :=
  .array [.bytes protectedHeader, .map [(.unsigned keyLabel, .bytes m.key.der)],
    .bytes m.payload, .bytes m.signature.bytes]

/-- The write into a buffer store by store: the tag, then the array in place of the bytes up to the
length that was computed. -/
def storeInto (m : Message) (kind : BufferKind) : Storing Nat := do
  let needed ← demand m.size
  let out ← get
  refuseUnless (needed ≤ out.length) (.noRoomForMessage needed out.length)
  let body ← demand (m.untagged.encode.mapError fun _ => .messageNotEncoded)
  refuseUnless (1 + body.length = needed) (.messageSize needed (1 + body.length))
  storeByte 0 tagByte
  storeBetween kind 1 needed body
  return needed

variable {m : Message}

/-- The wire form is the tag in front of the array. -/
theorem exists_untagged (hlim : m.payload.length < argumentLimit) :
    ∃ body, m.untagged.encode = .ok body ∧ [tagByte] ++ body = m.layout := by
  have hitem : m.item.encode = .ok m.layout := by rw [item_encode_eq, if_pos hlim]
  rw [item, Item.encode] at hitem
  obtain ⟨head, hhead, hitem⟩ := do_eq_ok_iff.mp hitem
  obtain ⟨body, hbody, hlayout⟩ := do_eq_ok_iff.mp hitem
  obtain rfl : [tagByte] = head := Except.ok.inj hhead
  exact ⟨body, hbody, Except.ok.inj hlayout⟩

/-- Store by store, into a buffer of either kind, the write gives the same answer and the same
buffer. -/
theorem runOn_storeInto (m : Message) (kind : BufferKind) (out : Bytes) :
    runOn (m.storeInto kind) out =
      ((m.writeInto out).1.mapError .refused, (m.writeInto out).2) := by
  unfold storeInto
  by_cases hlim : m.payload.length < argumentLimit
  swap
  · have hsize : m.size = .error (.argumentOutOfRange m.payload.length) := by
      rw [size_eq, if_neg hlim]
    rw [runOn_bind_of_error (runOn_demand_of_error hsize)]
    unfold writeInto
    rw [hsize]
    rfl
  have hsize : m.size = .ok m.layout.length := by rw [size_eq, if_pos hlim]
  rw [runOn_bind_of_ok (runOn_demand hsize), runOn_bind_of_ok runOn_get, writeInto_eq out hlim]
  by_cases hroom : out.length < m.layout.length
  · rw [runOn_bind_of_error (runOn_refuseUnless_of_not (by omega)), if_pos hroom]
    rfl
  -- nothing was stored so far, and from here on nothing is refused
  obtain ⟨body, hbody, hlayout⟩ := exists_untagged hlim
  have hencode : m.untagged.encode.mapError (fun _ => EncodeError.messageNotEncoded) = .ok body :=
    mapError_eq_ok_iff.mpr hbody
  have hlength : 1 + body.length = m.layout.length := by
    rw [← hlayout, List.length_append, List.length_singleton]
  have htag : runOn (storeByte 0 tagByte) out = (.ok (), out.overwrite [tagByte]) := by
    apply runOn_storeByte []
    show 0 < out.length
    omega
  have hstored : runOn (storeBetween kind 1 m.layout.length body) (out.overwrite [tagByte]) =
      (.ok (), out.overwrite m.layout) := by
    have hfits : ([tagByte] ++ body).length ≤ out.length := by rw [hlayout]; omega
    rw [← hlength, ← hlayout]
    exact runOn_storeBetween [tagByte] kind hfits
  rw [runOn_bind_of_ok (runOn_refuseUnless (by omega)), runOn_bind_of_ok (runOn_demand hencode),
    runOn_bind_of_ok (runOn_refuseUnless hlength), runOn_bind_of_ok htag, runOn_bind_of_ok hstored,
    if_neg hroom]
  rfl

/-- A write into a buffer of any length stores the whole wire form or nothing, and so it does store
by store, also where a buffer could grow. A payload without a length in CBOR is never written. -/
theorem writeInto_allOrNothing (m : Message) (out : Bytes) :
    ((m.payload.length < 2 ^ 64 ∧ ∃ wire, m.encode = .ok wire ∧ m.size = .ok wire.length ∧
        AllOrNothing wire out (.noRoomForMessage wire.length out.length) (m.writeInto out)) ∨
      (2 ^ 64 ≤ m.payload.length ∧ ∃ e, m.encode = .error e ∧ m.size = .error e ∧
        m.writeInto out = (.error e, out))) ∧
    ∀ kind, runOn (m.storeInto kind) out =
      ((m.writeInto out).1.mapError .refused, (m.writeInto out).2) := by
  refine ⟨?_, fun kind => runOn_storeInto m kind out⟩
  by_cases hlim : m.payload.length < argumentLimit
  · left
    refine ⟨hlim, m.layout, ?_, ?_, ?_⟩
    · rw [encode_eq, if_pos hlim]
    · rw [size_eq, if_pos hlim]
    · rw [writeInto_eq out hlim]
      exact allOrNothing_overwrite m.layout out _
  · right
    have hsize : m.size = .error (.argumentOutOfRange m.payload.length) := by
      rw [size_eq, if_neg hlim]
    refine ⟨Nat.le_of_not_lt hlim, .argumentOutOfRange m.payload.length, ?_, hsize, ?_⟩
    · rw [encode_eq, if_neg hlim]
    · unfold writeInto
      rw [hsize]

end Message

namespace ToBeSigned

/-- Byte strings stored one behind the other from a position on. -/
def storeItems (kind : BufferKind) (pos : Nat) : List Bytes → Storing Nat
  | [] => return pos
  | data :: rest => do
    let item ← demand (encodeByteString data)
    storeBetween kind pos (pos + item.length) item
    storeItems kind (pos + item.length) rest

/-- The stores of the array head and of the context with its head. -/
def storeOpening (kind : BufferKind) : Storing Unit := do
  storeByte 0 0x84
  storeByte 1 0x6a
  storeBetween kind 2 12 signingContext

/-- The write into a buffer store by store. -/
def storeInto (header payload : Bytes) (kind : BufferKind) : Storing Nat := do
  let needed ← demand (size header.length payload.length)
  let out ← get
  refuseUnless (needed ≤ out.length) (.noRoomForToBeSigned needed out.length)
  storeOpening kind
  let written ← storeItems kind 12 [header, [], payload]
  refuseUnless (written = needed) (.toBeSignedSize needed written)
  return written

variable {header payload : Bytes}

theorem runOn_storeOpening (kind : BufferKind) {out : Bytes} (h : opening.length ≤ out.length) :
    runOn (storeOpening kind) out = (.ok (), out.overwrite opening) := by
  have hlength : 12 ≤ out.length := h
  have hfirst : runOn (storeByte 0 0x84) out = (.ok (), out.overwrite [0x84]) := by
    apply runOn_storeByte []
    show 0 < out.length
    omega
  have hsecond : runOn (storeByte 1 0x6a) (out.overwrite [0x84]) =
      (.ok (), out.overwrite [0x84, 0x6a]) := by
    apply runOn_storeByte [0x84]
    show 1 < out.length
    omega
  rw [storeOpening, runOn_bind_of_ok hfirst, runOn_bind_of_ok hsecond]
  exact runOn_storeBetween [0x84, 0x6a] kind h

/-- The loop over the items: behind what was written stand the old bytes, and each item takes the
place of as many of these as it is long. -/
theorem runOn_storeItems {items : List Bytes}
    (hitems : ∀ data ∈ items, data.length < argumentLimit) (kind : BufferKind) {out : Bytes}
    (written : Bytes) (hfits : (written ++ items.flatMap byteString).length ≤ out.length) :
    runOn (storeItems kind written.length items) (out.overwrite written) =
      (.ok (written ++ items.flatMap byteString).length,
        out.overwrite (written ++ items.flatMap byteString)) := by
  induction items generalizing written with
  | nil =>
    rw [List.flatMap_nil, List.append_nil]
    rfl
  | cons data rest ih =>
    obtain ⟨hdata, hrest⟩ := List.forall_mem_cons.mp hitems
    have hitem := encodeByteString_of_lt hdata
    rw [List.flatMap_cons, ← List.append_assoc] at hfits ⊢
    have hstored : (written ++ byteString data).length ≤ out.length := by
      rw [List.length_append] at hfits
      omega
    rw [storeItems, runOn_bind_of_ok (runOn_demand hitem),
      runOn_bind_of_ok (runOn_storeBetween written kind hstored), ← List.length_append]
    exact ih hrest (written ++ byteString data) hfits

/-- Store by store, into a buffer of either kind, the write gives the same answer and the same
buffer. -/
theorem runOn_storeInto (header payload : Bytes) (kind : BufferKind) (out : Bytes) :
    runOn (storeInto header payload kind) out =
      ((writeInto header payload out).1.mapError .refused, (writeInto header payload out).2) := by
  unfold storeInto
  cases hsize : size header.length payload.length with
  | error e =>
    rw [runOn_bind_of_error (runOn_demand_of_error rfl)]
    unfold writeInto
    rw [hsize]
    rfl
  | ok needed =>
    obtain ⟨hheader, hpayload, rfl⟩ := size_eq_ok_iff.mp hsize
    rw [runOn_bind_of_ok (runOn_demand rfl), runOn_bind_of_ok runOn_get,
      writeInto_eq out hheader hpayload]
    by_cases hroom : out.length < (layout header payload).length
    · rw [runOn_bind_of_error (runOn_refuseUnless_of_not (by omega)), if_pos hroom]
      rfl
    -- nothing was stored so far, and from here on nothing is refused
    have hlayout : opening ++ [header, [], payload].flatMap byteString = layout header payload := by
      rw [layout, flatMap_items]
    have hopening : opening.length ≤ out.length := by
      rw [layout, List.length_append] at hroom
      omega
    have hitems : runOn (storeItems kind 12 [header, [], payload]) (out.overwrite opening) =
        (.ok (layout header payload).length, out.overwrite (layout header payload)) := by
      have hfits : (opening ++ [header, [], payload].flatMap byteString).length ≤ out.length := by
        rw [hlayout]
        omega
      rw [← hlayout]
      exact runOn_storeItems (length_items_lt hheader hpayload) kind opening hfits
    rw [runOn_bind_of_ok (runOn_refuseUnless (by omega)),
      runOn_bind_of_ok (runOn_storeOpening kind hopening), runOn_bind_of_ok hitems,
      runOn_bind_of_ok (runOn_refuseUnless rfl), if_neg hroom]
    rfl

/-! ### The array that is written -/

/-- What is signed as a CBOR item. -/
def item (header payload : Bytes) : Item :=
  .array [.text "Signature1", .bytes header, .bytes [], .bytes payload]

theorem item_encode_eq (hheader : header.length < argumentLimit)
    (hpayload : payload.length < argumentLimit) :
    (item header payload).encode = .ok (layout header payload) := by
  have harray : MajorType.array.head (4 : Nat) = .ok [0x84] := rfl
  have hcontext : (Item.text "Signature1").encode = .ok (0x6a :: signingContext) := rfl
  have hexternal : encodeByteString [] = .ok (byteString []) := rfl
  have hheader := encodeByteString_of_lt hheader
  have hpayload := encodeByteString_of_lt hpayload
  rw [item, Item.encode]
  simp only [encodeItems, hcontext]
  simp only [Item.encode, List.length_cons, List.length_nil, Nat.zero_add, Nat.reduceAdd, harray,
    hexternal, hheader, hpayload, bind, Except.bind, pure, Except.pure, layout, opening,
    List.cons_append, List.nil_append, List.append_nil, List.append_assoc]

/-- Whatever keeps to shortest heads writes what is signed as its layout. -/
theorem shortestForm_item_iff (hheader : header.length < argumentLimit)
    (hpayload : payload.length < argumentLimit) {form : Bytes} :
    (item header payload).ShortestForm form ↔ form = layout header payload := by
  rw [← Item.encode_eq_ok_iff, item_encode_eq hheader hpayload, Except.ok.injEq, eq_comm]

/-- What is signed is the shortest form of its array. A write into a buffer of any length stores
all of it or nothing, and so it does store by store, also where a buffer could grow. -/
theorem writeInto_wholeArray {header payload : Bytes} (hheader : header.length < 2 ^ 64)
    (hpayload : payload.length < 2 ^ 64) :
    ∃ wire headerItem payloadItem,
      encodeByteString header = .ok headerItem ∧ encodeByteString payload = .ok payloadItem ∧
      wire = [0x84, 0x6a] ++ ofText "Signature1" ++ headerItem ++ [0x40] ++ payloadItem ∧
      (∀ form, (item header payload).ShortestForm form ↔ form = wire) ∧
      size header.length payload.length = .ok wire.length ∧ encode header payload = .ok wire ∧
      ∀ out, AllOrNothing wire out (.noRoomForToBeSigned wire.length out.length)
          (writeInto header payload out) ∧
        ∀ kind, runOn (storeInto header payload kind) out =
          ((writeInto header payload out).1.mapError .refused,
            (writeInto header payload out).2) := by
  have hparts : layout header payload = [0x84, 0x6a] ++ ofText "Signature1" ++
      byteString header ++ [0x40] ++ byteString payload := by
    have hcontext : ofText "Signature1" = signingContext := rfl
    have hexternal : byteString [] = [0x40] := rfl
    rw [layout, hcontext, ← hexternal]
    simp only [List.append_assoc]
    rfl
  refine ⟨layout header payload, byteString header, byteString payload,
    encodeByteString_of_lt hheader, encodeByteString_of_lt hpayload, hparts,
    fun form => shortestForm_item_iff hheader hpayload, size_eq hheader hpayload,
    encode_eq hheader hpayload,
    fun out => ⟨?_, fun kind => runOn_storeInto header payload kind out⟩⟩
  rw [writeInto_eq out hheader hpayload]
  exact allOrNothing_overwrite (layout header payload) out _

/-- A header and a payload at lengths where the head in front of them gets wider. -/
def wideHeader : Bytes := List.replicate 24 0x58

def widePayload : Bytes := List.replicate (2 ^ 16) 0x40

theorem writeInto_wholeArray_wide :
    wideHeader.length < 2 ^ 64 ∧ widePayload.length < 2 ^ 64 ∧
    ∃ wire headerItem payloadItem,
      encodeByteString wideHeader = .ok headerItem ∧
      encodeByteString widePayload = .ok payloadItem ∧
      wire = [0x84, 0x6a] ++ ofText "Signature1" ++ headerItem ++ [0x40] ++ payloadItem ∧
      (∀ form, (item wideHeader widePayload).ShortestForm form ↔ form = wire) ∧
      size wideHeader.length widePayload.length = .ok wire.length ∧
      encode wideHeader widePayload = .ok wire ∧
      ∀ out, AllOrNothing wire out (.noRoomForToBeSigned wire.length out.length)
          (writeInto wideHeader widePayload out) ∧
        ∀ kind, runOn (storeInto wideHeader widePayload kind) out =
          ((writeInto wideHeader widePayload out).1.mapError .refused,
            (writeInto wideHeader widePayload out).2) := by
  have hheader : wideHeader.length < 2 ^ 64 := by
    rw [wideHeader, List.length_replicate]
    decide
  have hpayload : widePayload.length < 2 ^ 64 := by
    rw [widePayload, List.length_replicate]
    decide
  exact ⟨hheader, hpayload, writeInto_wholeArray hheader hpayload⟩

/-- What the buffer held behind the array stays. -/
example : writeInto [] [0x2a] (List.replicate 18 0xff) = (.ok 16, [0x84, 0x6a, 0x53, 0x69, 0x67,
    0x6e, 0x61, 0x74, 0x75, 0x72, 0x65, 0x31, 0x40, 0x40, 0x41, 0x2a, 0xff, 0xff]) := rfl

end ToBeSigned

end Rs256Cose
