import Mathlib
import Rs256Cose.Bytes

/-!
# Places in a byte string

`StandsAt buf part start stop` says that the bytes of `buf` from `start` up to `stop` are `part`.
Parts that follow each other join to one (`standsAt_append_iff`), and what stands from the first
position to the last is the whole string (`standsAt_whole_iff`). A reader is described by the part
that stands where it was applied.
-/

namespace Rs256Cose.Bytes

/-- The bytes from `start` up to `stop` lie inside `buf` and are `part`. -/
def StandsAt (buf part : Bytes) (start stop : Int) : Prop :=
  0 ≤ start ∧ start ≤ stop ∧ stop ≤ buf.length ∧ buf.slice start stop = part

variable {buf part a b : Bytes} {start mid stop : Int}

theorem bound_of_le {i : Int} (h0 : 0 ≤ i) (hi : i ≤ buf.length) :
    buf.bound i = i.toNat := by
  unfold bound
  rw [if_neg (by omega)]
  omega

theorem slice_of_le (h0 : 0 ≤ start) (h1 : start ≤ stop)
    (h2 : stop ≤ buf.length) :
    buf.slice start stop = (buf.drop start.toNat).take (stop.toNat - start.toNat) := by
  unfold slice
  rw [bound_of_le h0 (by omega), bound_of_le (by omega) h2, List.drop_take]

theorem length_slice (h0 : 0 ≤ start) (h1 : start ≤ stop) (h2 : stop ≤ buf.length) :
    (buf.slice start stop).length = stop.toNat - start.toNat := by
  rw [slice_of_le h0 h1 h2, List.length_take, List.length_drop]
  omega

/-- A slice is never longer than the distance of its bounds, wherever these count from. -/
theorem length_slice_le (h : start ≤ stop) : (buf.slice start stop).length ≤ stop - start := by
  unfold slice bound
  rw [List.length_drop, List.length_take]
  split_ifs <;> omega

theorem slice_self (buf : Bytes) (start : Int) : buf.slice start start = [] := by
  apply List.eq_nil_of_length_eq_zero
  have hlength : ((buf.slice start start).length : Int) ≤ start - start := length_slice_le le_rfl
  omega

/-- A part stands where the string splits around it. -/
theorem standsAt_iff_exists :
    StandsAt buf part start stop ↔ ∃ before after, buf = before ++ part ++ after ∧
      start = before.length ∧ stop = start + part.length := by
  refine ⟨?_, ?_⟩
  · rintro ⟨h0, h1, h2, rfl⟩
    refine ⟨buf.take start.toNat, buf.drop stop.toNat, ?_, ?_, ?_⟩
    · rw [slice_of_le h0 h1 h2, List.append_assoc]
      have hdrop : buf.drop stop.toNat =
          (buf.drop start.toNat).drop (stop.toNat - start.toNat) := by
        rw [List.drop_drop]
        congr 1
        omega
      rw [hdrop, List.take_append_drop, List.take_append_drop]
    · rw [List.length_take]
      omega
    · rw [length_slice h0 h1 h2]
      omega
  · rintro ⟨before, after, rfl, rfl, rfl⟩
    have hlen : (before ++ part ++ after).length = before.length + part.length + after.length := by
      simp only [List.length_append]
    refine ⟨by omega, by omega, by omega, ?_⟩
    rw [slice_of_le (by omega) (by omega) (by omega)]
    have hstart : ((before.length : Int)).toNat = before.length := by omega
    have hwidth : ((before.length : Int) + part.length).toNat - before.length = part.length := by
      omega
    rw [hstart, hwidth, List.append_assoc, List.drop_left, List.take_left]

theorem StandsAt.slice_eq (h : StandsAt buf part start stop) : buf.slice start stop = part :=
  h.2.2.2

theorem StandsAt.stop_le (h : StandsAt buf part start stop) : stop ≤ buf.length := h.2.2.1

theorem StandsAt.stop_eq (h : StandsAt buf part start stop) : stop = start + part.length := by
  obtain ⟨before, after, -, -, hstop⟩ := standsAt_iff_exists.mp h
  exact hstop

theorem StandsAt.stop_nonneg (h : StandsAt buf part start stop) : 0 ≤ stop := le_trans h.1 h.2.1

/-- Parts stand one after the other if and only if their concatenation stands there. -/
theorem standsAt_append_iff : StandsAt buf (a ++ b) start stop ↔
    ∃ mid, StandsAt buf a start mid ∧ StandsAt buf b mid stop := by
  simp only [standsAt_iff_exists]
  refine ⟨?_, ?_⟩
  · rintro ⟨before, after, rfl, rfl, rfl⟩
    refine ⟨before.length + a.length, ⟨before, b ++ after, ?_, rfl, rfl⟩,
      ⟨before ++ a, after, ?_, ?_, ?_⟩⟩
    · simp only [List.append_assoc]
    · simp only [List.append_assoc]
    · simp only [List.length_append, Nat.cast_add]
    · simp only [List.length_append, Nat.cast_add]
      omega
  · rintro ⟨mid, ⟨before, after, hbuf, rfl, rfl⟩, ⟨before', after', hbuf', hmid, rfl⟩⟩
    -- the two splits cut the string at the same place
    have hlen : (before ++ a).length = before'.length := by
      rw [List.length_append]
      omega
    have hsplit : before ++ a ++ after = before' ++ (b ++ after') := by
      rw [← hbuf, hbuf', List.append_assoc]
    obtain ⟨hbefore, rfl⟩ := List.append_inj hsplit hlen
    refine ⟨before, after', ?_, rfl, ?_⟩
    · rw [hbuf]
      simp only [List.append_assoc]
    · simp only [List.length_append, Nat.cast_add]
      omega

theorem StandsAt.append (ha : StandsAt buf a start mid) (hb : StandsAt buf b mid stop) :
    StandsAt buf (a ++ b) start stop :=
  standsAt_append_iff.mpr ⟨mid, ha, hb⟩

theorem standsAt_nil_iff : StandsAt buf [] start stop ↔
    0 ≤ start ∧ stop = start ∧ start ≤ buf.length := by
  refine ⟨?_, ?_⟩
  · intro h
    have hstop := h.stop_eq
    have hle := h.stop_le
    simp only [List.length_nil, Nat.cast_zero, Int.add_zero] at hstop
    exact ⟨h.1, hstop, by omega⟩
  · rintro ⟨h0, rfl, hle⟩
    exact ⟨h0, le_rfl, hle, slice_self buf stop⟩

/-- What stands in a string and ends within the front of it stands in the front. -/
theorem StandsAt.of_append {front rest : Bytes} (h : StandsAt (front ++ rest) part start stop)
    (hle : stop ≤ front.length) : StandsAt front part start stop := by
  obtain ⟨before, after, hbuf, rfl, rfl⟩ := standsAt_iff_exists.mp h
  have hlength : (before ++ part).length ≤ front.length := by
    rw [List.length_append]
    omega
  have hprefix : before ++ part <+: front :=
    List.prefix_of_prefix_length_le ⟨after, hbuf.symm⟩ (List.prefix_append front rest) hlength
  obtain ⟨after', rfl⟩ := hprefix
  exact standsAt_iff_exists.mpr ⟨before, after', rfl, rfl, rfl⟩

theorem standsAt_between (front part rest : Bytes) :
    StandsAt (front ++ part ++ rest) part front.length (front.length + part.length) :=
  standsAt_iff_exists.mpr ⟨front, rest, rfl, rfl, rfl⟩

theorem standsAt_front (part rest : Bytes) : StandsAt (part ++ rest) part 0 part.length :=
  standsAt_iff_exists.mpr ⟨[], rest, rfl, rfl, (Int.zero_add _).symm⟩

theorem standsAt_whole_iff : StandsAt buf part 0 buf.length ↔ part = buf := by
  have hslice : buf.slice 0 buf.length = buf := by
    rw [slice_of_le le_rfl (by omega) le_rfl]
    simp
  refine ⟨?_, ?_⟩
  · intro h
    rw [← h.slice_eq, hslice]
  · rintro rfl
    exact ⟨le_rfl, by omega, le_rfl, hslice⟩

theorem byte?_of_nonneg {i : Int} (h : 0 ≤ i) : buf.byte? i = buf[i.toNat]? := by
  unfold byte?
  rw [if_pos h]

/-- One byte stands where it is read. -/
theorem standsAt_singleton_iff {c : UInt8} :
    StandsAt buf [c] start stop ↔ 0 ≤ start ∧ stop = start + 1 ∧ buf.byte? start = some c := by
  rw [standsAt_iff_exists]
  refine ⟨?_, ?_⟩
  · rintro ⟨before, after, rfl, rfl, rfl⟩
    refine ⟨by omega, rfl, ?_⟩
    rw [byte?_of_nonneg (by omega)]
    simp
  · rintro ⟨h0, rfl, hb⟩
    rw [byte?_of_nonneg h0] at hb
    obtain ⟨hlt, hb⟩ := List.getElem?_eq_some_iff.mp hb
    refine ⟨buf.take start.toNat, buf.drop (start.toNat + 1), ?_, ?_, by simp⟩
    · rw [← hb, List.append_assoc, List.singleton_append, ← List.drop_eq_getElem_cons hlt,
        List.take_append_drop]
    · rw [List.length_take]
      omega

/-! ### Writing -/

/-- A buffer of the right length becomes what is written into it. -/
theorem overwrite_replicate (data : Bytes) (c : UInt8) :
    overwrite (List.replicate data.length c) data = data := by
  rw [overwrite, List.drop_replicate, Nat.sub_self, List.replicate_zero, List.append_nil]

theorem overwriteAt_zero (out data : Bytes) : overwriteAt out 0 data = overwrite out data := by
  rw [overwriteAt, List.take_zero, List.nil_append, List.drop_zero]

theorem overwriteAt_nil (out : Bytes) (i : Nat) : overwriteAt out i [] = out := by
  rw [overwriteAt, overwrite, List.nil_append, List.length_nil, List.drop_zero,
    List.take_append_drop]

/-- Two parts written one after the other are one part written. -/
theorem overwriteAt_append {out : Bytes} {i : Nat} (a b : Bytes) (h : i ≤ out.length) :
    overwriteAt (overwriteAt out i a) (i + a.length) b = overwriteAt out i (a ++ b) := by
  have hlength : (out.take i ++ a).length = i + a.length := by
    rw [List.length_append, List.length_take, Nat.min_eq_left h]
  have hout : overwriteAt out i a = (out.take i ++ a) ++ out.drop (i + a.length) := by
    rw [overwriteAt, overwrite, List.drop_drop, List.append_assoc]
  rw [hout, overwriteAt, ← hlength, List.take_left, List.drop_left, overwriteAt, overwrite,
    overwrite, List.drop_drop, List.drop_drop, hlength, List.length_append, List.append_assoc,
    List.append_assoc, Nat.add_assoc]

end Rs256Cose.Bytes
