import Mathlib
import Rs256Cose.Cbor.Head
import Rs256Cose.Proofs.Numbers
import Rs256Cose.Proofs.Places
import Rs256Cose.Proofs.Steps

/-!
# Reading heads

A head is read at a position if and only if its shortest spelling stands there
(`readHead_eq_ok_iff`); `expectHead` and `readUnsigned` restrict the heads that are accepted. A
position that does not count from the end never lies before the start
(`readHead_ne_beforeStart`).
-/

namespace Rs256Cose.Cbor

open Bytes

/-! ### The first byte -/

theorem MajorType.eq_code_of_ofCode? {major : Int} {m : MajorType}
    (h : MajorType.ofCode? major = some m) : major = m.code := by
  unfold MajorType.ofCode? at h
  split at h <;> cases h <;> rfl

theorem MajorType.code_injective {m m' : MajorType} (h : m.code = m'.code) : m = m' := by
  have hm := MajorType.ofCode?_code m
  rw [h, MajorType.ofCode?_code] at hm
  exact (Option.some.inj hm).symm

theorem additionalInfo_lt (argument : Nat) : additionalInfo argument < 32 := by
  unfold additionalInfo followingBytes
  split <;> split_ifs at * <;> omega

/-- The high three bits of a first byte are the major type and the low five the information. -/
theorem toNat_firstByte {m : MajorType} {info : Nat} (h : info < 32) :
    (UInt8.ofNat (32 * m.code + info)).toNat = 32 * m.code + info := by
  have hm := m.code_lt
  rw [UInt8.toNat_ofNat']
  omega

theorem ofFirstByte_firstByte {m : MajorType} {info : Nat} (h : info < 32) :
    MajorType.ofFirstByte (UInt8.ofNat (32 * m.code + info)) = m := by
  apply MajorType.code_injective
  rw [MajorType.code_ofFirstByte, toNat_firstByte h]
  omega

theorem firstByte_ofFirstByte (b : UInt8) :
    UInt8.ofNat (32 * (MajorType.ofFirstByte b).code + b.toNat % 32) = b := by
  rw [MajorType.code_ofFirstByte, Nat.div_add_mod, UInt8.ofNat_toNat]

/-! ### The argument -/

theorem additionalInfo_of_lt {argument : Nat} (h : argument < 24) :
    followingBytes argument = 0 ∧ additionalInfo argument = argument := by
  have hf : followingBytes argument = 0 := by rw [followingBytes, if_pos h]
  refine ⟨hf, ?_⟩
  unfold additionalInfo
  rw [hf]
  rfl

/-- An argument of at least 24 follows in the width that the information stands for. -/
theorem widthOfInfo_additionalInfo {argument : Nat} (h : 24 ≤ argument) :
    24 ≤ additionalInfo argument ∧ additionalInfo argument ≤ 27 ∧
      widthOfInfo (additionalInfo argument) = followingBytes argument := by
  unfold additionalInfo followingBytes
  split_ifs
  · omega
  all_goals simp [widthOfInfo]

/-- The information that stands for a width is that of the arguments of this width. -/
theorem additionalInfo_of_followingBytes {argument info : Nat} (h0 : 24 ≤ info) (h1 : info ≤ 27)
    (h : followingBytes argument = widthOfInfo info) : additionalInfo argument = info := by
  have hinfo : info = 24 ∨ info = 25 ∨ info = 26 ∨ info = 27 := by omega
  unfold additionalInfo
  rw [h]
  rcases hinfo with rfl | rfl | rfl | rfl <;> rfl

/-- An argument below the limit fits into the bytes that follow. -/
theorem argument_lt_pow {argument : Nat} (h0 : 24 ≤ argument) (h : argument < argumentLimit) :
    argument < 256 ^ followingBytes argument := by
  unfold argumentLimit at h
  unfold followingBytes
  split_ifs <;> omega

theorem pow_widthOfInfo_le (info : Nat) : 256 ^ widthOfInfo info ≤ argumentLimit := by
  unfold widthOfInfo
  split <;> decide

/-! ### Writing -/

theorem headSize_natCast (n : Nat) :
    headSize n = if n < argumentLimit then .ok (1 + followingBytes n)
      else .error (.argumentOutOfRange n) := by
  unfold headSize
  by_cases hn : n < argumentLimit
  · rw [if_neg (by omega), if_pos hn]
    rfl
  · rw [if_pos (by omega), if_neg hn]

theorem head_natCast (m : MajorType) (n : Nat) :
    m.head n = if n < argumentLimit then .ok (Head.encode ⟨m, n⟩)
      else .error (.argumentOutOfRange n) := by
  unfold MajorType.head
  rw [headSize_natCast]
  split_ifs <;> rfl

/-- Only a known major type and a whole number below the limit have a head. -/
theorem encodeHead_eq_ok_iff {major argument : Int} {wire : Bytes} :
    encodeHead major argument = .ok wire ↔ ∃ h : Head, major = h.major.code ∧
      argument = h.argument ∧ h.argument < argumentLimit ∧ h.encode = wire := by
  refine ⟨?_, ?_⟩
  · intro hwrite
    unfold encodeHead at hwrite
    split at hwrite
    · cases hwrite
    next m hm =>
      unfold MajorType.head at hwrite
      unfold headSize at hwrite
      split_ifs at hwrite with hlim
      · cases hwrite
      · have hargument : argument = argument.toNat := by omega
        have hlt : argument.toNat < argumentLimit := by omega
        exact ⟨⟨m, argument.toNat⟩, MajorType.eq_code_of_ofCode? hm, hargument, hlt,
          Except.ok.inj hwrite⟩
  · rintro ⟨⟨m, n⟩, rfl, rfl, hlim, rfl⟩
    unfold encodeHead
    rw [MajorType.ofCode?_code]
    simp only [head_natCast, if_pos hlim]

/-! ### Reading -/

/-- What the reader does behind a first byte with this information. -/
theorem readHead_of_info {buf : Bytes} {pos : Int} {m : MajorType} {info : Nat} (hinfo : info < 32)
    (hfirst : StandsAt buf [UInt8.ofNat (32 * m.code + info)] pos (pos + 1)) :
    readHead buf pos =
      if info < 24 then .ok (⟨m, info⟩, pos + 1)
      else if info = 31 then .error .indefiniteLength
      else if 27 < info then .error (.reservedInfo info)
      else if buf.length < pos + 1 + widthOfInfo info then .error .truncatedHead
      else
        let argument := (buf.slice (pos + 1) (pos + 1 + widthOfInfo info)).toNat
        if followingBytes argument = widthOfInfo info then
          .ok (⟨m, argument⟩, pos + 1 + widthOfInfo info)
        else .error (.nonMinimalHead argument (widthOfInfo info)) := by
  have hle := hfirst.stop_le
  obtain ⟨-, -, hbyte⟩ := standsAt_singleton_iff.mp hfirst
  have hlow : (32 * m.code + info) % 32 = info := by omega
  unfold readHead
  rw [if_neg (by omega), hbyte]
  simp only [toNat_firstByte hinfo, ofFirstByte_firstByte hinfo, hlow]

/-- After the first byte of a head the bytes that follow decide. -/
theorem readHead_of_firstByte {buf : Bytes} {pos : Int} {m : MajorType} {n : Nat}
    (hfirst : StandsAt buf [UInt8.ofNat (32 * m.code + additionalInfo n)] pos (pos + 1)) :
    readHead buf pos =
      if n < 24 then .ok (⟨m, n⟩, pos + 1)
      else if buf.length < pos + 1 + followingBytes n then .error .truncatedHead
      else
        let argument := (buf.slice (pos + 1) (pos + 1 + followingBytes n)).toNat
        if followingBytes argument = followingBytes n then
          .ok (⟨m, argument⟩, pos + 1 + followingBytes n)
        else .error (.nonMinimalHead argument (followingBytes n)) := by
  rw [readHead_of_info (additionalInfo_lt n) hfirst]
  -- a small argument is the information itself, a larger one follows in its shortest width
  by_cases hsmall : n < 24
  · rw [(additionalInfo_of_lt hsmall).2, if_pos hsmall, if_pos hsmall]
  · obtain ⟨hlo, hhi, hwidth⟩ := widthOfInfo_additionalInfo (Nat.le_of_not_lt hsmall)
    rw [if_neg (by omega), if_neg (by omega), if_neg (by omega), hwidth, if_neg hsmall]

theorem readHead_of_standsAt {buf : Bytes} {pos next : Int} {h : Head}
    (hlim : h.argument < argumentLimit) (hat : StandsAt buf h.encode pos next) :
    readHead buf pos = .ok (h, next) := by
  obtain ⟨m, n⟩ := h
  obtain ⟨mid, hfirst, hrest⟩ := standsAt_append_iff (a := [_]) |>.mp hat
  obtain rfl : mid = pos + 1 := hfirst.stop_eq
  have hstop := hrest.stop_eq
  have hle := hrest.stop_le
  simp only [length_ofNat] at hstop hle
  rw [readHead_of_firstByte hfirst, ← hstop]
  by_cases hsmall : n < 24
  · rw [if_pos hsmall, hstop, (additionalInfo_of_lt hsmall).1]
    simp
  · rw [if_neg hsmall, if_neg (by omega), hrest.slice_eq]
    simp only [toNat_ofNat (argument_lt_pow (Nat.le_of_not_lt hsmall) hlim), if_true]

theorem standsAt_of_readHead {buf : Bytes} {pos next : Int} {h : Head} (hpos : 0 ≤ pos)
    (hread : readHead buf pos = .ok (h, next)) :
    h.argument < argumentLimit ∧ StandsAt buf h.encode pos next := by
  unfold readHead at hread
  split_ifs at hread with hend
  split at hread
  · cases hread
  next first hbyte =>
    have hfirst : StandsAt buf [first] pos (pos + 1) :=
      standsAt_singleton_iff.mpr ⟨hpos, rfl, hbyte⟩
    simp only at hread
    split_ifs at hread with hsmall hindef hreserved htrunc hwidth
    · cases hread
      obtain ⟨hzero, hself⟩ := additionalInfo_of_lt hsmall
      refine ⟨lt_trans hsmall (by decide), ?_⟩
      rw [Head.encode, hself, firstByte_ofFirstByte, hzero]
      exact hfirst
    -- the check for the shortest form fixes the width, so the bytes read are those written
    · cases hread
      generalize hbytes :
        buf.slice (pos + 1) (pos + 1 + widthOfInfo (first.toNat % 32)) = bytes at *
      have hrest : StandsAt buf bytes (pos + 1) (pos + 1 + widthOfInfo (first.toNat % 32)) :=
        ⟨by omega, by omega, by omega, hbytes⟩
      have hlength : bytes.length = widthOfInfo (first.toNat % 32) := by
        have := hrest.stop_eq
        omega
      have hinfo := additionalInfo_of_followingBytes (by omega) (by omega) hwidth
      refine ⟨?_, ?_⟩
      · have hlt := toNat_lt bytes
        rw [hlength] at hlt
        exact lt_of_lt_of_le hlt (pow_widthOfInfo_le _)
      · rw [Head.encode, hinfo, firstByte_ofFirstByte, hwidth, ← hlength, ofNat_toNat]
        exact standsAt_append_iff (a := [first]) |>.mpr ⟨_, hfirst, hlength ▸ hrest⟩

/-- Reading at a position accepts exactly the shortest spelling of a head there. -/
theorem readHead_eq_ok_iff {buf : Bytes} {pos next : Int} {h : Head} (hpos : 0 ≤ pos) :
    readHead buf pos = .ok (h, next) ↔
      h.argument < argumentLimit ∧ StandsAt buf h.encode pos next :=
  ⟨standsAt_of_readHead hpos, fun ⟨hlim, hat⟩ => readHead_of_standsAt hlim hat⟩

theorem expectHead_of_standsAt {buf : Bytes} {pos next : Int} {h : Head} (what : String)
    (hlim : h.argument < argumentLimit) (hat : StandsAt buf h.encode pos next) :
    expectHead buf pos h.major.code h.argument what = .ok next := by
  unfold expectHead
  rw [readHead_of_standsAt hlim hat]
  simp [Except.bind]

/-- Demanding a head accepts exactly this head. -/
theorem standsAt_of_expectHead {buf : Bytes} {pos next major argument : Int} {what : String}
    (hpos : 0 ≤ pos) (hread : expectHead buf pos major argument what = .ok next) :
    ∃ h : Head, major = h.major.code ∧ argument = h.argument ∧ h.argument < argumentLimit ∧
      StandsAt buf h.encode pos next := by
  obtain ⟨⟨h, stop⟩, hhead, hread⟩ := bind_eq_ok_iff.mp hread
  obtain ⟨hlim, hat⟩ := standsAt_of_readHead hpos hhead
  simp only at hread
  split_ifs at hread with hmajor hargument
  cases hread
  exact ⟨h, (not_not.mp hmajor).symm, (not_not.mp hargument).symm, hlim, hat⟩

/-- The head demanded by a major type and a whole number. -/
theorem expectHead_eq_ok_iff {buf : Bytes} {pos next : Int} {h : Head} {what : String}
    (hpos : 0 ≤ pos) : expectHead buf pos h.major.code h.argument what = .ok next ↔
      h.argument < argumentLimit ∧ StandsAt buf h.encode pos next := by
  refine ⟨?_, ?_⟩
  · intro hread
    obtain ⟨⟨m, n⟩, hm, hn, hlim, hat⟩ := standsAt_of_expectHead hpos hread
    obtain rfl : m = h.major := MajorType.code_injective (by exact_mod_cast hm.symm)
    obtain rfl : n = h.argument := by exact_mod_cast hn.symm
    exact ⟨hlim, hat⟩
  · rintro ⟨hlim, hat⟩
    exact expectHead_of_standsAt what hlim hat

theorem readUnsigned_of_standsAt {buf : Bytes} {pos next : Int} {n : Nat} (hlim : n < argumentLimit)
    (hat : StandsAt buf (Head.encode ⟨.unsigned, n⟩) pos next) :
    readUnsigned buf pos = .ok (n, next) := by
  unfold readUnsigned
  rw [readHead_of_standsAt hlim hat]
  rfl

theorem standsAt_of_readUnsigned {buf : Bytes} {pos next : Int} {n : Nat} (hpos : 0 ≤ pos)
    (hread : readUnsigned buf pos = .ok (n, next)) :
    n < argumentLimit ∧ StandsAt buf (Head.encode ⟨.unsigned, n⟩) pos next := by
  obtain ⟨⟨⟨m, argument⟩, stop⟩, hhead, hread⟩ := bind_eq_ok_iff.mp hread
  obtain ⟨hlim, hat⟩ := standsAt_of_readHead hpos hhead
  simp only at hread
  split_ifs at hread with hmajor
  cases hread
  obtain rfl : m = .unsigned := hmajor
  exact ⟨hlim, hat⟩

/-! ### Positions before the start -/

section

variable {buf : Bytes} {pos : Int}

theorem readHead_ne_beforeStart (hpos : 0 ≤ pos) : readHead buf pos ≠ .error .beforeStart := by
  unfold readHead
  split_ifs with hend
  · rintro ⟨⟩
  split
  · next hnone =>
    rw [byte?_of_nonneg hpos, List.getElem?_eq_none_iff] at hnone
    omega
  · simp only
    split_ifs <;> rintro ⟨⟩

theorem expectHead_ne_beforeStart (hpos : 0 ≤ pos) (major argument : Int) (what : String) :
    expectHead buf pos major argument what ≠ .error .beforeStart := by
  refine bind_ne_error (readHead_ne_beforeStart hpos) ?_
  rintro ⟨head, next⟩ _
  simp only
  split_ifs <;> rintro ⟨⟩

theorem readUnsigned_ne_beforeStart (hpos : 0 ≤ pos) :
    readUnsigned buf pos ≠ .error .beforeStart := by
  refine bind_ne_error (readHead_ne_beforeStart hpos) ?_
  rintro ⟨head, next⟩ _
  simp only
  split_ifs <;> rintro ⟨⟩

end

end Rs256Cose.Cbor
