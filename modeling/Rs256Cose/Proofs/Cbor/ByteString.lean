import Mathlib
import Rs256Cose.Cbor.ByteString
import Rs256Cose.Proofs.Cbor.Head

/-!
# Reading byte strings

`byteString` is the item of a byte string whatever its length; `encodeByteString` writes it when
the length is below the limit, and a byte string is read where its item stands
(`readByteString_eq_ok_iff`).
-/

namespace Rs256Cose.Cbor

open Bytes

/-- The item that holds a byte string. -/
def byteString (data : Bytes) : Bytes := Head.encode ⟨.bytes, data.length⟩ ++ data

theorem length_byteString (data : Bytes) :
    (byteString data).length = 1 + followingBytes data.length + data.length := by
  rw [byteString, List.length_append, Head.length_encode]

theorem encodeByteString_eq (data : Bytes) :
    encodeByteString data = if data.length < argumentLimit then .ok (byteString data)
      else .error (.argumentOutOfRange data.length) := by
  unfold encodeByteString
  rw [head_natCast]
  split_ifs <;> rfl

theorem encodeByteString_of_lt {data : Bytes} (h : data.length < argumentLimit) :
    encodeByteString data = .ok (byteString data) := by
  rw [encodeByteString_eq, if_pos h]

theorem byteStringSize_natCast (n : Nat) :
    byteStringSize n = if n < argumentLimit then .ok (1 + followingBytes n + n)
      else .error (.argumentOutOfRange n) := by
  unfold byteStringSize
  rw [headSize_natCast]
  split_ifs <;> rfl

theorem byteStringSize_length (data : Bytes) :
    byteStringSize data.length = if data.length < argumentLimit then .ok (byteString data).length
      else .error (.argumentOutOfRange data.length) := by
  rw [byteStringSize_natCast, length_byteString]

/-- After the head of a byte string its length decides, whatever number it is: the bytes run past
the end of the input or are read. -/
theorem readByteString_of_head {buf : Bytes} {pos start : Int} {n : Nat} (hlim : n < argumentLimit)
    (hhead : StandsAt buf (Head.encode ⟨.bytes, n⟩) pos start) :
    readByteString buf pos = if buf.length < start + n then .error (.truncatedByteString n)
      else .ok (buf.slice start (start + n), start + n) := by
  unfold readByteString
  rw [readHead_of_standsAt hlim hhead]
  rfl

theorem readByteString_of_standsAt {buf data : Bytes} {pos next : Int}
    (hlim : data.length < argumentLimit) (hat : StandsAt buf (byteString data) pos next) :
    readByteString buf pos = .ok (data, next) := by
  obtain ⟨start, hhead, hdata⟩ := standsAt_append_iff.mp hat
  have hstop := hdata.stop_eq
  have hle := hdata.stop_le
  rw [readByteString_of_head hlim hhead, if_neg (by omega), ← hstop, hdata.slice_eq]

theorem standsAt_of_readByteString {buf data : Bytes} {pos next : Int} (hpos : 0 ≤ pos)
    (hread : readByteString buf pos = .ok (data, next)) :
    data.length < argumentLimit ∧ StandsAt buf (byteString data) pos next := by
  obtain ⟨⟨⟨m, length⟩, start⟩, hhead, hread⟩ := bind_eq_ok_iff.mp hread
  obtain ⟨hlim, hhead⟩ := standsAt_of_readHead hpos hhead
  have hstart := hhead.stop_eq
  simp only [ne_eq] at hread hlim
  split_ifs at hread with hmajor hend
  cases hread
  obtain rfl : m = .bytes := hmajor
  have hdata : StandsAt buf (buf.slice start (start + length)) start (start + length) :=
    ⟨by omega, by omega, by omega, rfl⟩
  generalize buf.slice start (start + length) = data at *
  have hlength : data.length = length := by
    have := hdata.stop_eq
    omega
  refine ⟨hlength ▸ hlim, ?_⟩
  unfold byteString
  rw [hlength]
  exact standsAt_append_iff.mpr ⟨start, hhead, hdata⟩

/-- Reading at a position accepts exactly the item of a byte string there. -/
theorem readByteString_eq_ok_iff {buf data : Bytes} {pos next : Int} (hpos : 0 ≤ pos) :
    readByteString buf pos = .ok (data, next) ↔
      data.length < argumentLimit ∧ StandsAt buf (byteString data) pos next :=
  ⟨standsAt_of_readByteString hpos, fun ⟨hlim, hat⟩ => readByteString_of_standsAt hlim hat⟩

theorem readByteString_ne_beforeStart {buf : Bytes} {pos : Int} (hpos : 0 ≤ pos) :
    readByteString buf pos ≠ .error .beforeStart := by
  refine bind_ne_error (readHead_ne_beforeStart hpos) ?_
  rintro ⟨head, start⟩ _
  simp only
  split_ifs <;> rintro ⟨⟩

end Rs256Cose.Cbor
