import Mathlib
import Rs256Cose.Proofs.Cbor.Checked
import Rs256Cose.Proofs.Cbor.Item

/-!
# One spelling of each head

What is written for a major type and an argument, given as numbers, is what a reader of heads
accepts for them (`HeadAt`), and it accepts nothing else: of the spellings of a head, at most five
(`Head.encard_spellings_le`), all but the shortest are refused for their width
(`readHead_of_spells`), and no head goes on as another one (`Head.encode_append_inj`).
-/

namespace Rs256Cose.Cbor

open Bytes

/-! ### Writing -/

theorem MajorType.exists_ofCode?_iff {major : Int} :
    (∃ m, MajorType.ofCode? major = some m) ↔ 0 ≤ major ∧ major ≤ 7 := by
  refine ⟨?_, ?_⟩
  · rintro ⟨m, hm⟩
    have hcode := MajorType.eq_code_of_ofCode? hm
    have hlt := m.code_lt
    omega
  · rintro ⟨hlow, hhigh⟩
    interval_cases major <;> exact ⟨_, rfl⟩

section

variable {major argument : Int} {wire : Bytes}

/-- Exactly the numbers of a major type and of an argument have a head. -/
theorem exists_encodeHead_iff : (∃ wire, encodeHead major argument = .ok wire) ↔
    (0 ≤ major ∧ major ≤ 7) ∧ 0 ≤ argument ∧ argument < argumentLimit := by
  refine ⟨?_, ?_⟩
  · rintro ⟨wire, hwrite⟩
    obtain ⟨⟨m, n⟩, rfl, rfl, hlim, -⟩ := encodeHead_eq_ok_iff.mp hwrite
    have hcode := m.code_lt
    simp only at hlim ⊢
    omega
  · rintro ⟨hmajor, hlow, hhigh⟩
    obtain ⟨m, hm⟩ := MajorType.exists_ofCode?_iff.mpr hmajor
    have hargument : argument = argument.toNat := by omega
    have hlim : argument.toNat < argumentLimit := by omega
    exact ⟨_, encodeHead_eq_ok_iff.mpr
      ⟨⟨m, argument.toNat⟩, MajorType.eq_code_of_ofCode? hm, hargument, hlim, rfl⟩⟩

/-- A head has the length that is computed for its argument. -/
theorem headSize_of_encodeHead (hwrite : encodeHead major argument = .ok wire) :
    headSize argument = .ok wire.length := by
  obtain ⟨h, -, rfl, hlim, rfl⟩ := encodeHead_eq_ok_iff.mp hwrite
  rw [headSize_natCast, if_pos hlim, h.length_encode]

/-- A number that is not that of a major type is refused before the argument is looked at. -/
theorem encodeHead_eq_error_iff {e : EncodeError} : encodeHead major argument = .error e ↔
    (¬ (0 ≤ major ∧ major ≤ 7) ∧ e = .unknownMajorType major) ∨
    ((0 ≤ major ∧ major ≤ 7) ∧ ¬ (0 ≤ argument ∧ argument < argumentLimit) ∧
      e = .argumentOutOfRange argument) := by
  rw [← MajorType.exists_ofCode?_iff]
  unfold encodeHead
  cases MajorType.ofCode? major with
  | none => simp [eq_comm]
  | some m =>
    have hrange : (argument < 0 ∨ argumentLimit ≤ argument) ↔
        ¬ (0 ≤ argument ∧ argument < argumentLimit) := by omega
    simp only [MajorType.head, headSize, hrange]
    split_ifs with hargument <;> simp [Except.map, hargument, eq_comm]

end

/-! ### Reading what is written -/

/-- The bytes from `pos` up to `next` lie inside `buf` and are the head for these numbers. -/
def HeadAt (buf : Bytes) (pos major argument next : Int) : Prop :=
  pos < next ∧ next ≤ buf.length ∧ encodeHead major argument = .ok (buf.slice pos next)

section

variable {buf : Bytes} {pos major argument next : Int}

theorem headAt_iff_standsAt (hpos : 0 ≤ pos) : HeadAt buf pos major argument next ↔
    ∃ h : Head, major = h.major.code ∧ argument = h.argument ∧ h.argument < argumentLimit ∧
      StandsAt buf h.encode pos next := by
  unfold HeadAt
  rw [encodeHead_eq_ok_iff]
  refine ⟨?_, ?_⟩
  · rintro ⟨hlt, hle, h, hmajor, hargument, hlim, hslice⟩
    exact ⟨h, hmajor, hargument, hlim, hpos, hlt.le, hle, hslice.symm⟩
  · rintro ⟨h, hmajor, hargument, hlim, hat⟩
    have hstop := hat.stop_eq
    rw [h.length_encode] at hstop
    exact ⟨by omega, hat.stop_le, h, hmajor, hargument, hlim, hat.slice_eq.symm⟩

/-- A head is read for two numbers exactly where their head stands. -/
theorem exists_readHead_iff (hpos : 0 ≤ pos) :
    (∃ h : Head, readHead buf pos = .ok (h, next) ∧ major = h.major.code ∧ argument = h.argument) ↔
      HeadAt buf pos major argument next := by
  simp only [headAt_iff_standsAt hpos, readHead_eq_ok_iff hpos]
  refine ⟨?_, ?_⟩
  · rintro ⟨h, ⟨hlim, hat⟩, hmajor, hargument⟩
    exact ⟨h, hmajor, hargument, hlim, hat⟩
  · rintro ⟨h, hmajor, hargument, hlim, hat⟩
    exact ⟨h, ⟨hlim, hat⟩, hmajor, hargument⟩

theorem expectHead_iff_headAt (hpos : 0 ≤ pos) (what : String) :
    expectHead buf pos major argument what = .ok next ↔ HeadAt buf pos major argument next := by
  rw [headAt_iff_standsAt hpos]
  refine ⟨standsAt_of_expectHead hpos, ?_⟩
  rintro ⟨h, rfl, rfl, hlim, hat⟩
  exact expectHead_of_standsAt what hlim hat

theorem readUnsigned_iff_headAt (hpos : 0 ≤ pos) {n : Nat} :
    readUnsigned buf pos = .ok (n, next) ↔
      HeadAt buf pos MajorType.unsigned.code n next := by
  rw [headAt_iff_standsAt hpos]
  refine ⟨?_, ?_⟩
  · intro hread
    obtain ⟨hlim, hat⟩ := standsAt_of_readUnsigned hpos hread
    exact ⟨⟨.unsigned, n⟩, rfl, rfl, hlim, hat⟩
  · rintro ⟨⟨m, argument⟩, hmajor, hargument, hlim, hat⟩
    obtain rfl : m = .unsigned := MajorType.code_injective (by exact_mod_cast hmajor.symm)
    obtain rfl : n = argument := by exact_mod_cast hargument
    exact readUnsigned_of_standsAt hlim hat

end

/-! ### Other spellings -/

namespace Head

variable {h h' : Head} {wire other : Bytes}

theorem Spells.length_mem (hspells : h.Spells wire) :
    wire.length ∈ ({1, 2, 3, 5, 9} : Set Nat) := by
  cases hspells with
  | inFirstByte hsmall => simp
  | @behind info digits hlow hhigh hwidth hvalue =>
    rw [List.length_cons, hwidth]
    interval_cases info <;> simp

/-- The length of a spelling tells where the argument is. -/
theorem Spells.eq_of_length_eq (hspells : h.Spells wire) (hother : h.Spells other)
    (hlength : wire.length = other.length) : wire = other := by
  cases hspells with
  | inFirstByte hsmall =>
    cases hother with
    | inFirstByte _ => rfl
    | @behind info digits hlow hhigh hwidth hvalue =>
      have hpos : 0 < 2 ^ (info - 24) := Nat.two_pow_pos _
      simp only [List.length_cons, List.length_nil, hwidth] at hlength
      omega
  | @behind info digits hlow hhigh hwidth hvalue =>
    cases hother with
    | inFirstByte hsmall =>
      have hpos : 0 < 2 ^ (info - 24) := Nat.two_pow_pos _
      simp only [List.length_cons, List.length_nil, hwidth] at hlength
      omega
    | @behind info' digits' hlow' hhigh' hwidth' hvalue' =>
      simp only [List.length_cons, Nat.add_right_cancel_iff] at hlength
      have hexponent : info - 24 = info' - 24 := by
        apply Nat.pow_right_injective le_rfl
        simp only [← hwidth, ← hwidth', hlength]
      obtain rfl : info = info' := by omega
      rw [eq_of_toNat_eq hlength (hvalue.trans hvalue'.symm)]

/-- One spelling for each width. -/
theorem encard_spellings_le (h : Head) : {wire | h.Spells wire}.encard ≤ 5 := by
  calc {wire | h.Spells wire}.encard
    _ ≤ ({1, 2, 3, 5, 9} : Set Nat).encard :=
      Set.encard_le_encard_of_injOn (fun _ hspells => Spells.length_mem hspells)
        fun _ hspells _ hother => Spells.eq_of_length_eq hspells hother
    _ = 5 := by
      rw [Set.encard_eq_coe_toFinset_card]
      rfl

/-- Where heads begin two byte strings that are the same, they are the same head. -/
theorem encode_append_inj {rest rest' : Bytes} (hlim : h.argument < argumentLimit)
    (hlim' : h'.argument < argumentLimit) (heq : h.encode ++ rest = h'.encode ++ rest') :
    h = h' ∧ rest = rest' := by
  have hread := readHead_of_standsAt hlim (standsAt_front h.encode rest)
  have hread' := readHead_of_standsAt hlim' (standsAt_front h'.encode rest')
  rw [heq, hread'] at hread
  obtain rfl : h' = h := (Prod.mk.inj (Except.ok.inj hread)).1
  exact ⟨rfl, List.append_cancel_left heq⟩

end Head

/-- Of the spellings of a head the shortest is read where it stands, and every other one is refused
for its width. -/
theorem readHead_of_spells {buf wire : Bytes} {pos next : Int} {h : Head}
    (hspells : h.Spells wire) (hat : StandsAt buf wire pos next) :
    readHead buf pos = if wire = h.encode then .ok (h, next)
      else .error (.nonMinimalHead h.argument (wire.length - 1)) := by
  by_cases hwire : wire = h.encode
  · subst hwire
    rw [if_pos rfl, readHead_of_standsAt hspells.argument_lt hat]
  rw [if_neg hwire]
  -- a second spelling differs in its length, so the argument follows in more bytes than it needs
  have hlength : wire.length ≠ 1 + followingBytes h.argument := fun hlength =>
    hwire (hspells.eq_encode (hlength.trans h.length_encode.symm))
  cases hspells with
  | inFirstByte hsmall =>
    rw [(additionalInfo_of_lt hsmall).1] at hlength
    exact absurd rfl hlength
  | @behind info digits hlow hhigh hwidth hvalue =>
    obtain ⟨mid, hfirst, hdigits⟩ := standsAt_append_iff (a := [_]) |>.mp hat
    obtain rfl : mid = pos + 1 := hfirst.stop_eq
    rw [← widthOfInfo_eq_pow hlow hhigh] at hwidth
    have hstop := hdigits.stop_eq
    have hle := hdigits.stop_le
    rw [hwidth] at hstop
    rw [List.length_cons] at hlength
    rw [readHead_of_info (by omega) hfirst, if_neg (by omega), if_neg (by omega),
      if_neg (by omega), if_neg (by omega), ← hstop, hdigits.slice_eq]
    simp only [hvalue]
    rw [if_neg (by omega), List.length_cons, Nat.add_sub_cancel, hwidth]

/-! ### Heads read and written -/

/-- Exactly the numbers in range have a head, of the length that is computed for the argument. A
reader of heads, with the checks of writing or without, accepts for two numbers exactly the bytes
that are written for them and refuses everything else for a cause of reading. Demanding a head or an
unsigned integer keeps the answers with the numbers demanded and no others. What is written is one
of the at most five spellings of the head, and the other ones are refused wherever they stand; no
head is a proper front part of another. -/
theorem readHead_inverts_encodeHead :
    (∀ major argument : Int,
      ((∃ wire, encodeHead major argument = .ok wire) ↔
        (0 ≤ major ∧ major ≤ 7) ∧ 0 ≤ argument ∧ argument ≤ 2 ^ 64 - 1) ∧
      (∀ wire, encodeHead major argument = .ok wire → headSize argument = .ok wire.length) ∧
      ∀ e, encodeHead major argument = .error e →
        e = .unknownMajorType major ∨ e = .argumentOutOfRange argument) ∧
    (∀ (buf : Bytes) (pos : Int), 0 ≤ pos →
      AnswersAs (Checked.readHead buf pos) (readHead buf pos) ∧
      ∀ major argument next : Int,
        ((∃ h : Head, readHead buf pos = .ok (h, next) ∧ major = h.major.code ∧
            argument = h.argument) ↔ HeadAt buf pos major argument next) ∧
        (∀ what, expectHead buf pos major argument what = .ok next ↔
          HeadAt buf pos major argument next) ∧
        ∀ n : Nat, readUnsigned buf pos = .ok (n, next) ↔ HeadAt buf pos 0 n next) ∧
    (∀ h : Head, h.argument ≤ 2 ^ 64 - 1 → {wire | h.Spells wire}.encard ≤ 5 ∧
      ∃ wire, h.Spells wire ∧ encodeHead h.major.code h.argument = .ok wire ∧
        ∀ front other rest : Bytes, h.Spells other →
          readHead (front ++ other ++ rest) front.length =
            if other = wire then .ok (h, front.length + other.length)
            else .error (.nonMinimalHead h.argument (other.length - 1))) ∧
    ∀ (major argument major' argument' : Int) (wire wire' : Bytes),
      encodeHead major argument = .ok wire → encodeHead major' argument' = .ok wire' →
        wire <+: wire' → wire = wire' := by
  have hlimit : (argumentLimit : Int) = 2 ^ 64 := rfl
  refine ⟨fun major argument => ⟨?_, fun wire => headSize_of_encodeHead, ?_⟩, ?_, ?_, ?_⟩
  · rw [exists_encodeHead_iff, hlimit, Int.le_sub_one_iff]
  · intro e hrefused
    rcases encodeHead_eq_error_iff.mp hrefused with ⟨-, he⟩ | ⟨-, -, he⟩
    · exact .inl he
    · exact .inr he
  · intro buf pos hpos
    refine ⟨answersAs_of_eq_mapError (Checked.readHead_eq buf pos) (readHead_ne_beforeStart hpos),
      fun major argument next => ⟨exists_readHead_iff hpos, fun what =>
        expectHead_iff_headAt hpos what, fun n => readUnsigned_iff_headAt hpos⟩⟩
  · intro h hargument
    have hlim : h.argument < argumentLimit := by
      unfold argumentLimit
      omega
    refine ⟨h.encard_spellings_le, h.encode, h.spells_encode hlim,
      encodeHead_eq_ok_iff.mpr ⟨h, rfl, rfl, hlim, rfl⟩, fun front other rest hother => ?_⟩
    exact readHead_of_spells hother (standsAt_between front other rest)
  · rintro major argument major' argument' wire wire' hwrite hwrite' ⟨rest, hrest⟩
    obtain ⟨h, -, -, hlim, rfl⟩ := encodeHead_eq_ok_iff.mp hwrite
    obtain ⟨h', -, -, hlim', rfl⟩ := encodeHead_eq_ok_iff.mp hwrite'
    rw [← List.append_nil h'.encode] at hrest
    rw [(Head.encode_append_inj hlim hlim' hrest).1]

/-- A head of the greatest width, between bytes that are heads themselves. -/
def widest : Bytes := [0x41] ++ [0x5b, 0, 0, 0, 1, 0, 0, 0, 0] ++ [0x40]

/-- That head is read, the same number in too many bytes is not, and the head of 23 does not begin
that of 24. -/
theorem readHead_inverts_encodeHead_widest :
    HeadAt widest 1 2 (2 ^ 32) 10 ∧
    (∃ h : Head, readHead widest 1 = .ok (h, 10) ∧ 2 = (h.major.code : Int) ∧
      2 ^ 32 = (h.argument : Int)) ∧
    expectHead widest 1 2 (2 ^ 32) "length" = .ok 10 ∧
    AnswersAs (Checked.readHead widest 1) (readHead widest 1) ∧
    Head.Spells ⟨.bytes, 24⟩ [0x59, 0, 0x18] ∧
    readHead ([0x41] ++ [0x59, 0, 0x18] ++ [0x40]) 1 = .error (.nonMinimalHead 24 2) ∧
    ¬ ([0x57] <+: ([0x58, 0x18] : Bytes)) := by
  obtain ⟨-, hread, hspellings, hfront⟩ := readHead_inverts_encodeHead
  obtain ⟨hanswers, hrelation⟩ := hread widest 1 (by decide)
  obtain ⟨hhead, hexpect, -⟩ := hrelation 2 (2 ^ 32) 10
  have hat : HeadAt widest 1 2 (2 ^ 32) 10 := ⟨by decide, by decide, rfl⟩
  have hspells : Head.Spells ⟨.bytes, 24⟩ [0x59, 0, 0x18] :=
    @Head.Spells.behind _ 25 [0, 0x18] (by decide) (by decide) rfl rfl
  obtain ⟨-, wire, -, hwrite, hothers⟩ := hspellings ⟨.bytes, 24⟩ (by decide)
  obtain rfl : [0x58, 0x18] = wire := Except.ok.inj hwrite
  refine ⟨hat, hhead.mpr hat, (hexpect "length").mpr hat, hanswers, hspells,
    hothers [0x41] [0x59, 0, 0x18] [0x40] hspells, ?_⟩
  intro hbegins
  have hsame := hfront 2 23 2 24 [0x57] [0x58, 0x18] rfl rfl hbegins
  exact absurd hsame (by decide)

end Rs256Cose.Cbor
