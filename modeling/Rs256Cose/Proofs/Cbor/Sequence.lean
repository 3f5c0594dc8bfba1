import Mathlib
import Rs256Cose.Proofs.Cbor.ByteString

/-!
# Byte strings in a row

`readByteStrings` reads byte strings, each where the one before it stopped. Where the items of byte
strings stand one behind the other, these byte strings are read (`readByteStrings_of_standsAt`),
and those that were read have their items there (`standsIn_of_readByteStrings`,
`standsAt_of_consecutive`). So the items of as many byte strings never begin the same bytes unless
the byte strings are the same (`flatMap_byteString_append_inj`).
-/

namespace Rs256Cose.Cbor

open Bytes

/-! ### Writing -/

/-- Byte strings are written all or not at all, depending on their lengths. -/
theorem mapM_encodeByteString_eq_ok_iff {items encodings : List Bytes} :
    items.mapM encodeByteString = .ok encodings ↔
      (∀ data ∈ items, data.length < argumentLimit) ∧ items.map byteString = encodings := by
  induction items generalizing encodings with
  | nil => simp [pure, Except.pure]
  | cons data rest ih =>
    rw [List.mapM_cons, List.forall_mem_cons, List.map_cons]
    simp only [do_eq_ok_iff, encodeByteString_eq, ih, pure, Except.pure, Except.ok.injEq]
    refine ⟨?_, ?_⟩
    · rintro ⟨first, hfirst, following, ⟨hrest, rfl⟩, rfl⟩
      split_ifs at hfirst with hdata
      cases hfirst
      exact ⟨⟨hdata, hrest⟩, rfl⟩
    · rintro ⟨⟨hdata, hrest⟩, rfl⟩
      exact ⟨_, if_pos hdata, _, ⟨hrest, rfl⟩, rfl⟩

/-! ### Reading -/

/-- A byte string that was read, with the positions at which its reader was started and stopped. -/
structure Reading where
  data : Bytes
  start : Int
  stop : Int
  deriving DecidableEq, Repr

/-- As many byte strings as asked for, the first from a position and each other one from where the
one before it stopped, with the position after the last. -/
def readByteStrings (buf : Bytes) : (count : Nat) → (pos : Int) →
    Except DecodeError (List Reading × Int)
  | 0, pos => return ([], pos)
  | count + 1, pos => do
    let (data, next) ← readByteString buf pos
    let (readings, stop) ← readByteStrings buf count next
    return (⟨data, pos, next⟩ :: readings, stop)

/-- Each reading starts where the one before it stopped, the first at `pos`, and the last stops at
`stop`. -/
def Consecutive (pos : Int) : List Reading → (stop : Int) → Prop
  | [], stop => stop = pos
  | r :: readings, stop => r.start = pos ∧ Consecutive r.stop readings stop

/-- The item of the byte string stands where it was read. -/
def Reading.StandsIn (buf : Bytes) (r : Reading) : Prop :=
  r.data.length < argumentLimit ∧ StandsAt buf (byteString r.data) r.start r.stop

variable {buf : Bytes} {count : Nat} {pos stop : Int} {r : Reading} {readings : List Reading}

theorem Reading.StandsIn.encodeByteString_eq (h : r.StandsIn buf) :
    encodeByteString r.data = .ok (buf.slice r.start r.stop) := by
  rw [encodeByteString_of_lt h.1, h.2.slice_eq]

/-- A reader moves on by the length that is computed for the item. -/
theorem Reading.StandsIn.exists_byteStringSize_eq (h : r.StandsIn buf) :
    ∃ size : Nat, byteStringSize r.data.length = .ok size ∧ r.stop = r.start + size :=
  ⟨_, by rw [byteStringSize_length, if_pos h.1], h.2.stop_eq⟩

theorem readByteStrings_succ_eq_ok_iff :
    readByteStrings buf (count + 1) pos = .ok (readings, stop) ↔
      ∃ data next following, readByteString buf pos = .ok (data, next) ∧
        readByteStrings buf count next = .ok (following, stop) ∧
        ⟨data, pos, next⟩ :: following = readings := by
  rw [readByteStrings]
  simp only [do_eq_ok_iff, pure, Except.pure, Except.ok.injEq, Prod.exists, Prod.mk.injEq]
  refine ⟨?_, ?_⟩
  · rintro ⟨data, next, hdata, following, stop, hfollowing, rfl, rfl⟩
    exact ⟨data, next, following, hdata, hfollowing, rfl⟩
  · rintro ⟨data, next, following, hdata, hfollowing, rfl⟩
    exact ⟨data, next, hdata, following, stop, hfollowing, rfl, rfl⟩

theorem readByteStrings_of_standsAt {items : List Bytes}
    (hitems : ∀ data ∈ items, data.length < argumentLimit)
    (hat : StandsAt buf (items.flatMap byteString) pos stop) :
    ∃ readings, readByteStrings buf items.length pos = .ok (readings, stop) ∧
      readings.map Reading.data = items := by
  induction items generalizing pos with
  | nil =>
    obtain ⟨-, rfl, -⟩ := standsAt_nil_iff.mp hat
    exact ⟨[], rfl, rfl⟩
  | cons data rest ih =>
    obtain ⟨hdata, hrest⟩ := List.forall_mem_cons.mp hitems
    rw [List.flatMap_cons] at hat
    obtain ⟨next, hfirst, hfollowing⟩ := standsAt_append_iff.mp hat
    obtain ⟨readings, hread, rfl⟩ := ih hrest hfollowing
    exact ⟨⟨data, pos, next⟩ :: readings, readByteStrings_succ_eq_ok_iff.mpr
      ⟨data, next, readings, readByteString_of_standsAt hdata hfirst, hread, rfl⟩, rfl⟩

theorem standsIn_of_readByteStrings (hpos : 0 ≤ pos)
    (hread : readByteStrings buf count pos = .ok (readings, stop)) :
    readings.length = count ∧ Consecutive pos readings stop ∧
      ∀ r ∈ readings, r.StandsIn buf := by
  induction count generalizing pos readings with
  | zero =>
    cases hread
    exact ⟨rfl, rfl, by simp⟩
  | succ count ih =>
    obtain ⟨data, next, following, hdata, hfollowing, rfl⟩ :=
      readByteStrings_succ_eq_ok_iff.mp hread
    -- the item that was read ends within the input, so the next reader starts there
    have hfirst := standsAt_of_readByteString hpos hdata
    obtain ⟨hlength, hconsecutive, hrest⟩ := ih hfirst.2.stop_nonneg hfollowing
    refine ⟨congrArg Nat.succ hlength, ⟨rfl, hconsecutive⟩, ?_⟩
    exact List.forall_mem_cons.mpr ⟨hfirst, hrest⟩

/-- Readings that follow each other from a position in the input on leave no byte out. -/
theorem standsAt_of_consecutive (hpos : 0 ≤ pos) (hle : pos ≤ buf.length)
    (hconsecutive : Consecutive pos readings stop) (hreadings : ∀ r ∈ readings, r.StandsIn buf) :
    StandsAt buf ((readings.map Reading.data).flatMap byteString) pos stop := by
  induction readings generalizing pos with
  | nil =>
    obtain rfl : stop = pos := hconsecutive
    exact standsAt_nil_iff.mpr ⟨hpos, rfl, hle⟩
  | cons r readings ih =>
    obtain ⟨⟨-, hfirst⟩, hrest⟩ := List.forall_mem_cons.mp hreadings
    obtain ⟨rfl, hconsecutive⟩ := hconsecutive
    exact hfirst.append (ih hfirst.stop_nonneg hfirst.stop_le hconsecutive hrest)

/-- The bytes that consecutive readings consume, none of them beyond the input. -/
theorem slice_of_consecutive (hpos : 0 ≤ pos) (hconsecutive : Consecutive pos readings stop)
    (hreadings : ∀ r ∈ readings, r.StandsIn buf) :
    buf.slice pos stop = (readings.map Reading.data).flatMap byteString ∧
      stop = pos + ((readings.map Reading.data).flatMap byteString).length ∧
      (0 < readings.length → stop ≤ buf.length) := by
  cases readings with
  | nil =>
    obtain rfl : stop = pos := hconsecutive
    exact ⟨slice_self buf stop, (Int.add_zero stop).symm, fun h => absurd h (lt_irrefl 0)⟩
  | cons r following =>
    obtain ⟨-, hfirst⟩ := hreadings r List.mem_cons_self
    obtain rfl : r.start = pos := hconsecutive.1
    have hle : r.start ≤ buf.length := hfirst.2.1.trans hfirst.stop_le
    have hat := standsAt_of_consecutive hpos hle hconsecutive hreadings
    exact ⟨hat.slice_eq, hat.stop_eq, fun _ => hat.stop_le⟩

/-- Where the items of as many byte strings begin two byte strings that are the same, they are
those of the same byte strings. -/
theorem flatMap_byteString_append_inj {a b : List Bytes} {rest rest' : Bytes}
    (ha : ∀ data ∈ a, data.length < argumentLimit) (hb : ∀ data ∈ b, data.length < argumentLimit)
    (hlength : a.length = b.length)
    (h : a.flatMap byteString ++ rest = b.flatMap byteString ++ rest') : a = b ∧ rest = rest' := by
  obtain ⟨readings, hread, hdata⟩ := readByteStrings_of_standsAt ha (standsAt_front _ rest)
  obtain ⟨readings', hread', hdata'⟩ := readByteStrings_of_standsAt hb (standsAt_front _ rest')
  rw [h, hlength, hread'] at hread
  obtain rfl : readings' = readings := (Prod.mk.inj (Except.ok.inj hread)).1
  obtain rfl : a = b := hdata.symm.trans hdata'
  exact ⟨rfl, List.append_cancel_left h⟩

/-- Byte strings are read back in order from their items, whatever stands around these, and the last
reader stops where the items end. And whenever byte strings were read one behind the other, the
bytes consumed are the items of these byte strings, inside the input, each as long as is computed
for its byte string. -/
theorem readByteStrings_inverts_encodeByteString :
    (∀ (items : List Bytes) (front rest : Bytes), (∀ data ∈ items, data.length < 2 ^ 64) →
      ∃ encodings readings, items.mapM encodeByteString = .ok encodings ∧
        readByteStrings (front ++ encodings.flatten ++ rest) items.length front.length =
          .ok (readings, (front ++ encodings.flatten).length) ∧
        readings.map Reading.data = items) ∧
    ∀ (buf : Bytes) (pos : Int) (count : Nat) (readings : List Reading) (stop : Int), 0 ≤ pos →
      readByteStrings buf count pos = .ok (readings, stop) →
        readings.length = count ∧ Consecutive pos readings stop ∧
        (∃ encodings, (readings.map Reading.data).mapM encodeByteString = .ok encodings ∧
          buf.slice pos stop = encodings.flatten ∧ stop = pos + encodings.flatten.length ∧
          (0 < count → stop ≤ buf.length)) ∧
        ∀ r ∈ readings, 0 ≤ r.start ∧ r.stop ≤ buf.length ∧
          encodeByteString r.data = .ok (buf.slice r.start r.stop) ∧
          ∃ size : Nat, byteStringSize r.data.length = .ok size ∧ r.stop = r.start + size := by
  refine ⟨?_, ?_⟩
  · intro items front rest hitems
    have hencodings := mapM_encodeByteString_eq_ok_iff.mpr ⟨hitems, rfl⟩
    have hat := standsAt_between front (items.map byteString).flatten rest
    rw [← Nat.cast_add, ← List.length_append, ← List.flatMap_def] at hat
    obtain ⟨readings, hread, hdata⟩ := readByteStrings_of_standsAt hitems hat
    exact ⟨_, readings, hencodings, hread, hdata⟩
  · intro buf pos count readings stop hpos hread
    obtain ⟨rfl, hconsecutive, hreadings⟩ := standsIn_of_readByteStrings hpos hread
    have hlengths : ∀ data ∈ readings.map Reading.data, data.length < argumentLimit :=
      List.forall_mem_map.mpr fun r hr => (hreadings r hr).1
    have hencodings := mapM_encodeByteString_eq_ok_iff.mpr ⟨hlengths, rfl⟩
    have hslice := slice_of_consecutive hpos hconsecutive hreadings
    rw [List.flatMap_def] at hslice
    refine ⟨rfl, hconsecutive, ⟨_, hencodings, hslice⟩, fun r hr => ?_⟩
    have hr := hreadings r hr
    exact ⟨hr.2.1, hr.2.stop_le, hr.encodeByteString_eq, hr.exists_byteStringSize_eq⟩

/-- Byte strings that look like heads: of an item of one byte, of an item that goes on beyond the
input, and no byte at all. -/
def lookalikes : List Bytes := [[0x41], List.replicate 24 0x5b, []]

theorem readByteStrings_inverts_encodeByteString_lookalikes :
    (∀ data ∈ lookalikes, data.length < 2 ^ 64) ∧
    ∃ encodings readings, lookalikes.mapM encodeByteString = .ok encodings ∧
      readByteStrings ([0x42] ++ encodings.flatten ++ [0x40]) 3 1 = .ok (readings, 30) ∧
      readings.map Reading.data = lookalikes ∧ Consecutive 1 readings 30 ∧
      Bytes.slice ([0x42] ++ encodings.flatten ++ [0x40]) 1 30 = encodings.flatten ∧
      ∀ r ∈ readings, ∃ size : Nat,
        byteStringSize r.data.length = .ok size ∧ r.stop = r.start + size := by
  obtain ⟨hforth, hback⟩ := readByteStrings_inverts_encodeByteString
  have hitems : ∀ data ∈ lookalikes, data.length < 2 ^ 64 := by decide
  obtain ⟨encodings, readings, hencodings, hread, hdata⟩ :=
    hforth lookalikes [0x42] [0x40] hitems
  have hlength : ([0x42] ++ encodings.flatten).length = 30 := by
    obtain ⟨-, rfl⟩ := mapM_encodeByteString_eq_ok_iff.mp hencodings
    rfl
  rw [hlength] at hread
  obtain ⟨-, hconsecutive, ⟨encodings', hencodings', hslice, -⟩, hreadings⟩ :=
    hback _ _ _ _ _ (by decide) hread
  rw [hdata, hencodings] at hencodings'
  cases hencodings'
  exact ⟨hitems, encodings, readings, hencodings, hread, hdata, hconsecutive, hslice,
    fun r hr => (hreadings r hr).2.2.2⟩

end Rs256Cose.Cbor
