import Mathlib
import Rs256Cose.Cbor.ByteString
import Rs256Cose.Proofs.Cbor.Head

/-!
# Reading with the checks of writing

The readers of `Checked` are those of heads and byte strings, except that they compare the width of
a head with the length that a writer computes for its argument. `headSize` refuses some arguments,
so they may fail as writers do (`WireError`). No argument that was read is refused: each of them
answers as the reader does that it is named for (`readHead_eq` and the lemmas after it).
-/

namespace Rs256Cose

/-- Why a reader stops that also computes and builds what a writer does: the input is refused, or a
value that was read could not be written. -/
inductive WireError where
  | decode (error : DecodeError)
  | encode (error : EncodeError)
  deriving DecidableEq, Repr

/-- A reader with the checks of writing reads what the plain one reads, and it refuses an input as
that one does, for a cause of reading. -/
def AnswersAs {α : Type} (checked : Except WireError α) (plain : Except DecodeError α) : Prop :=
  (∃ a, checked = .ok a ∧ plain = .ok a) ∨
    ∃ e, e ≠ .beforeStart ∧ checked = .error (.decode e) ∧ plain = .error e

theorem answersAs_of_eq_mapError {α : Type} {checked : Except WireError α}
    {plain : Except DecodeError α} (hchecked : checked = plain.mapError .decode)
    (hplain : plain ≠ .error .beforeStart) : AnswersAs checked plain := by
  subst hchecked
  cases plain with
  | ok a => exact .inl ⟨a, rfl, rfl⟩
  | error e =>
    refine .inr ⟨e, ?_, rfl, rfl⟩
    rintro rfl
    exact hplain rfl

namespace Cbor

/-- The bytes that follow the first one of a head spell an argument that has a head. -/
theorem headSize_slice (buf : Bytes) (start : Int) (info : Nat) :
    headSize (buf.slice start (start + widthOfInfo info)).toNat =
      .ok (1 + followingBytes (buf.slice start (start + widthOfInfo info)).toNat) := by
  have hle : start ≤ start + widthOfInfo info := by omega
  have hlength : (buf.slice start (start + widthOfInfo info)).length ≤ widthOfInfo info := by
    have hdistance : ((buf.slice start _).length : Int) ≤ _ := Bytes.length_slice_le hle
    omega
  generalize buf.slice start (start + widthOfInfo info) = bytes at *
  have hlt : bytes.toNat < argumentLimit :=
    calc bytes.toNat
      _ < 256 ^ bytes.length := Bytes.toNat_lt bytes
      _ ≤ 256 ^ widthOfInfo info := Nat.pow_le_pow_right (by decide) hlength
      _ ≤ argumentLimit := pow_widthOfInfo_le info
  rw [headSize_natCast, if_pos hlt]

namespace Checked

def readHead (buf : Bytes) (pos : Int) : Except WireError (Head × Int) :=
  if buf.length ≤ pos then .error (.decode .missingHead)
  else match buf.byte? pos with
  | none => .error (.decode .beforeStart)
  | some first =>
    let info := first.toNat % 32
    if info < 24 then .ok (⟨.ofFirstByte first, info⟩, pos + 1)
    else if info = 31 then .error (.decode .indefiniteLength)
    else if 27 < info then .error (.decode (.reservedInfo info))
    else
      let width := widthOfInfo info
      let next := pos + 1 + width
      if buf.length < next then .error (.decode .truncatedHead)
      else
        let argument := (buf.slice (pos + 1) next).toNat
        match headSize argument with
        | .error e => .error (.encode e)
        | .ok size =>
          if size = 1 + width then .ok (⟨.ofFirstByte first, argument⟩, next)
          else .error (.decode (.nonMinimalHead argument width))

def expectHead (buf : Bytes) (pos major argument : Int) (what : String) : Except WireError Int :=
  (readHead buf pos).bind fun (head, next) =>
    if head.major.code ≠ major then .error (.decode (.otherMajorType what major head.major.code))
    else if head.argument ≠ argument then
      .error (.decode (.otherCount what argument head.argument))
    else .ok next

def readUnsigned (buf : Bytes) (pos : Int) : Except WireError (Nat × Int) :=
  (readHead buf pos).bind fun (head, next) =>
    if head.major = .unsigned then .ok (head.argument, next)
    else .error (.decode (.notUnsigned head.major.code))

def readByteString (buf : Bytes) (pos : Int) : Except WireError (Bytes × Int) :=
  (readHead buf pos).bind fun (head, start) =>
    if head.major ≠ .bytes then .error (.decode (.notByteString head.major.code))
    else
      let next := start + head.argument
      if buf.length < next then .error (.decode (.truncatedByteString head.argument))
      else .ok (buf.slice start next, next)

variable (buf : Bytes) (pos : Int)

/-- The length of a head is computed of arguments of at most eight bytes only. -/
theorem readHead_eq : readHead buf pos = (Cbor.readHead buf pos).mapError .decode := by
  unfold readHead Cbor.readHead
  by_cases hend : buf.length ≤ pos
  · rw [if_pos hend, if_pos hend]
    rfl
  rw [if_neg hend, if_neg hend]
  cases hbyte : buf.byte? pos with
  | none => rfl
  | some first =>
    have hsize := headSize_slice buf (pos + 1) (first.toNat % 32)
    simp only [hsize]
    split_ifs with hsmall hindefinite hreserved htruncated hfits hwidth hwidth
    any_goals rfl
    · omega
    · omega

theorem expectHead_eq (major argument : Int) (what : String) :
    expectHead buf pos major argument what =
      (Cbor.expectHead buf pos major argument what).mapError .decode := by
  refine bind_eq_mapError (readHead_eq buf pos) ?_
  rintro ⟨head, next⟩
  simp only
  split_ifs <;> rfl

theorem readUnsigned_eq :
    readUnsigned buf pos = (Cbor.readUnsigned buf pos).mapError .decode := by
  refine bind_eq_mapError (readHead_eq buf pos) ?_
  rintro ⟨head, next⟩
  simp only
  split_ifs <;> rfl

theorem readByteString_eq :
    readByteString buf pos = (Cbor.readByteString buf pos).mapError .decode := by
  refine bind_eq_mapError (readHead_eq buf pos) ?_
  rintro ⟨head, next⟩
  simp only
  split_ifs <;> rfl

end Checked

end Cbor

end Rs256Cose
