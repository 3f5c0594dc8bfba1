import Mathlib
import Rs256Cose.Proofs.Cbor.ByteString

/-!
# Items cut short

On the front part of an input a reader gives the answer that it gives on the whole, as long as the
item ends in that part, and otherwise finds that the part ends too early (`ReadsUpTo`). A chain of
readers does so if each of them does (`ReadsUpTo.bind`).
-/

namespace Rs256Cose

/-- Whether an input was refused for ending too early. -/
def DecodeError.IsTruncation : DecodeError → Prop
  | emptyInput | missingHead | truncatedHead | truncatedByteString _ => True
  | _ => False

namespace Cbor

open Bytes

/-- The answer on an input of this length, if it would be `a` on an input that goes on at least to
`next`. -/
structure ReadsUpTo {α : Type} (length : Nat) (next : Int) (answer : Except DecodeError α) (a : α) :
    Prop where
  whole : next ≤ length → answer = .ok a
  cut : length < next → ∃ e : DecodeError, e.IsTruncation ∧ answer = .error e

namespace ReadsUpTo

variable {α β : Type} {length : Nat} {mid next : Int}

theorem of_ok {answer : Except DecodeError α} {a : α} (h : answer = .ok a) (hle : next ≤ length) :
    ReadsUpTo length next answer a :=
  ⟨fun _ => h, fun hlt => absurd hlt (by omega)⟩

theorem bind {x : Except DecodeError α} {f : α → Except DecodeError β} {a : α} {b : β}
    (hx : ReadsUpTo length mid x a) (hle : mid ≤ next)
    (hf : mid ≤ length → ReadsUpTo length next (f a) b) : ReadsUpTo length next (x.bind f) b := by
  by_cases hmid : mid ≤ length
  · rw [hx.whole hmid]
    exact hf hmid
  · obtain ⟨e, he, hx⟩ := hx.cut (by omega)
    rw [hx]
    exact ⟨fun hnext => absurd hnext (by omega), fun _ => ⟨e, he, rfl⟩⟩

end ReadsUpTo

variable {front rest : Bytes} {pos next : Int}

theorem readHead_readsUpTo {h : Head} (hlim : h.argument < argumentLimit)
    (hat : StandsAt (front ++ rest) h.encode pos next) :
    ReadsUpTo front.length next (readHead front pos) (h, next) := by
  refine ⟨fun hle => readHead_of_standsAt hlim (hat.of_append hle), fun hlt => ?_⟩
  by_cases hend : front.length ≤ pos
  · exact ⟨.missingHead, trivial, if_pos hend⟩
  · obtain ⟨m, n⟩ := h
    obtain ⟨mid, hfirst, hfollowing⟩ := standsAt_append_iff (a := [_]) |>.mp hat
    obtain rfl : mid = pos + 1 := hfirst.stop_eq
    have hstop : next = pos + 1 + followingBytes n := by rw [hfollowing.stop_eq, length_ofNat]
    have hread := readHead_of_firstByte (m := m) (n := n) (hfirst.of_append (by omega))
    have hlarge : ¬ n < 24 := by
      intro hsmall
      rw [(additionalInfo_of_lt hsmall).1] at hstop
      omega
    rw [if_neg hlarge, if_pos (by omega)] at hread
    exact ⟨.truncatedHead, trivial, hread⟩

theorem expectHead_readsUpTo {h : Head} (what : String) (hlim : h.argument < argumentLimit)
    (hat : StandsAt (front ++ rest) h.encode pos next) :
    ReadsUpTo front.length next (expectHead front pos h.major.code h.argument what) next := by
  refine (readHead_readsUpTo hlim hat).bind le_rfl fun hle => .of_ok ?_ hle
  simp only [ne_eq, not_true, if_false]

theorem readUnsigned_readsUpTo {n : Nat} (hlim : n < argumentLimit)
    (hat : StandsAt (front ++ rest) (Head.encode ⟨.unsigned, n⟩) pos next) :
    ReadsUpTo front.length next (readUnsigned front pos) (n, next) :=
  (readHead_readsUpTo hlim hat).bind le_rfl fun hle => .of_ok rfl hle

theorem readByteString_readsUpTo {data : Bytes} (hlim : data.length < argumentLimit)
    (hat : StandsAt (front ++ rest) (byteString data) pos next) :
    ReadsUpTo front.length next (readByteString front pos) (data, next) := by
  refine ⟨fun hle => readByteString_of_standsAt hlim (hat.of_append hle), fun hlt => ?_⟩
  obtain ⟨start, hhead, hdata⟩ := standsAt_append_iff.mp hat
  have hstop := hdata.stop_eq
  -- either the head is cut, or it is read and announces more bytes than there are
  by_cases hstart : start ≤ front.length
  · have hread := readByteString_of_head hlim (hhead.of_append hstart)
    rw [if_pos (by omega)] at hread
    exact ⟨.truncatedByteString data.length, trivial, hread⟩
  · obtain ⟨e, he, hread⟩ := (readHead_readsUpTo hlim hhead).cut (by omega)
    refine ⟨e, he, ?_⟩
    rw [readByteString, hread]
    rfl

end Cbor

end Rs256Cose
