import Mathlib
import Rs256Cose.Cbor.Item
import Rs256Cose.Proofs.Cbor.ByteString

/-!
# The shortest form of an item

A head has several spellings of definite length: its argument in the first byte, or behind it in
1, 2, 4 or 8 bytes (`Head.Spells`). `Head.IsShortest` picks the one that no other is shorter than,
and `Item.ShortestForm` builds an item from such heads, without a word on how they are computed.
`encode` finds exactly this form (`Item.encode_eq_ok_iff`), so every encoder that keeps to shortest
heads of definite length writes the same bytes.
-/

namespace Rs256Cose.Cbor

open Bytes

/-! ### Heads -/

/-- The spellings of a head of definite length. -/
inductive Head.Spells (h : Head) : Bytes → Prop
  /-- The argument is the information of the first byte. -/
  | inFirstByte (hsmall : h.argument < 24) :
      Spells h [UInt8.ofNat (32 * h.major.code + h.argument)]
  /-- The argument follows, in the width that the information stands for. -/
  | behind {info : Nat} {digits : Bytes} (hlow : 24 ≤ info) (hhigh : info ≤ 27)
      (hwidth : digits.length = 2 ^ (info - 24)) (hvalue : digits.toNat = h.argument) :
      Spells h (UInt8.ofNat (32 * h.major.code + info) :: digits)

/-- A spelling of a head that no other one is shorter than. -/
def Head.IsShortest (h : Head) (wire : Bytes) : Prop :=
  h.Spells wire ∧ ∀ other, h.Spells other → wire.length ≤ other.length

theorem widthOfInfo_eq_pow {info : Nat} (hlow : 24 ≤ info) (hhigh : info ≤ 27) :
    widthOfInfo info = 2 ^ (info - 24) := by
  interval_cases info <;> rfl

/-- An argument in as many bytes as some spelling has needs no more than these. -/
theorem followingBytes_le_of_lt_pow {argument info : Nat} (hlow : 24 ≤ info) (hhigh : info ≤ 27)
    (h : argument < 256 ^ widthOfInfo info) : followingBytes argument ≤ widthOfInfo info := by
  interval_cases info <;> simp only [widthOfInfo] at h ⊢ <;> unfold followingBytes <;>
    split_ifs <;> omega

namespace Head

variable {h : Head} {wire : Bytes}

/-- The spelling that is written is one, unless the argument fits into no width. -/
theorem spells_encode (hlim : h.argument < argumentLimit) : h.Spells h.encode := by
  by_cases hsmall : h.argument < 24
  · obtain ⟨hzero, hself⟩ := additionalInfo_of_lt hsmall
    rw [encode, hzero, hself]
    exact .inFirstByte hsmall
  · have hlarge := Nat.le_of_not_lt hsmall
    obtain ⟨hlow, hhigh, hwidth⟩ := widthOfInfo_additionalInfo hlarge
    refine .behind hlow hhigh ?_ (toNat_ofNat (argument_lt_pow hlarge hlim))
    rw [length_ofNat, ← hwidth, widthOfInfo_eq_pow hlow hhigh]

theorem Spells.argument_lt (hspells : h.Spells wire) : h.argument < argumentLimit := by
  cases hspells with
  | inFirstByte hsmall => exact lt_trans hsmall (by decide)
  | @behind info digits hlow hhigh hwidth hvalue =>
    rw [← hvalue]
    apply lt_of_lt_of_le (toNat_lt digits)
    rw [hwidth, ← widthOfInfo_eq_pow hlow hhigh]
    exact pow_widthOfInfo_le info

/-- No spelling is shorter than the one that is written. -/
theorem Spells.length_encode_le (hspells : h.Spells wire) : h.encode.length ≤ wire.length := by
  rw [length_encode]
  cases hspells with
  | inFirstByte hsmall => rw [(additionalInfo_of_lt hsmall).1, List.length_singleton]
  | @behind info digits hlow hhigh hwidth hvalue =>
    rw [← widthOfInfo_eq_pow hlow hhigh] at hwidth
    have hle : followingBytes h.argument ≤ widthOfInfo info :=
      followingBytes_le_of_lt_pow hlow hhigh (hvalue ▸ hwidth ▸ toNat_lt digits)
    rw [List.length_cons, hwidth]
    omega

/-- Of the length that is written there is no second spelling. -/
theorem Spells.eq_encode (hspells : h.Spells wire) (hlength : wire.length = h.encode.length) :
    wire = h.encode := by
  rw [length_encode] at hlength
  cases hspells with
  | inFirstByte hsmall =>
    obtain ⟨hzero, hself⟩ := additionalInfo_of_lt hsmall
    rw [encode, hzero, hself]
    rfl
  | @behind info digits hlow hhigh hwidth hvalue =>
    rw [List.length_cons] at hlength
    have hfollowing : followingBytes h.argument = digits.length := by omega
    have hinfo : additionalInfo h.argument = info := by
      refine additionalInfo_of_followingBytes hlow hhigh ?_
      rw [hfollowing, hwidth, widthOfInfo_eq_pow hlow hhigh]
    rw [encode, hinfo, hfollowing, ← hvalue, ofNat_toNat]

/-- The shortest spelling is the one that is written. -/
theorem isShortest_iff : h.IsShortest wire ↔ h.argument < argumentLimit ∧ h.encode = wire := by
  refine ⟨?_, ?_⟩
  · rintro ⟨hspells, hleast⟩
    have hlim := hspells.argument_lt
    have hle := hleast _ (spells_encode hlim)
    exact ⟨hlim, (hspells.eq_encode (le_antisymm hle hspells.length_encode_le)).symm⟩
  · rintro ⟨hlim, rfl⟩
    exact ⟨spells_encode hlim, fun other hother => hother.length_encode_le⟩

end Head

theorem MajorType.head_eq_ok_iff {m : MajorType} {n : Nat} {wire : Bytes} :
    m.head n = .ok wire ↔ Head.IsShortest ⟨m, n⟩ wire := by
  rw [head_natCast, Head.isShortest_iff]
  split_ifs with hlim <;> simp [hlim]

/-- Two parts are written one after the other. -/
theorem append_eq_ok_iff {first rest : Except EncodeError Bytes} {wire : Bytes} :
    (do let a ← first; let b ← rest; return a ++ b) = .ok wire ↔
      ∃ a b, first = .ok a ∧ rest = .ok b ∧ a ++ b = wire := by
  simp only [do_eq_ok_iff, pure, Except.pure, Except.ok.injEq]
  exact ⟨fun ⟨a, ha, b, hb, heq⟩ => ⟨a, b, ha, hb, heq⟩,
    fun ⟨a, b, ha, hb, heq⟩ => ⟨a, ha, b, hb, heq⟩⟩

theorem encodeByteString_eq_ok_iff {data wire : Bytes} :
    encodeByteString data = .ok wire ↔
      ∃ head, Head.IsShortest ⟨.bytes, data.length⟩ head ∧ head ++ data = wire := by
  rw [encodeByteString_eq, byteString]
  simp only [Head.isShortest_iff]
  split_ifs with hlim <;> simp [hlim]

/-! ### Items -/

mutual

/-- The forms of an item in which every head has definite length and is the shortest. -/
inductive Item.ShortestForm : Item → Bytes → Prop
  | unsigned {n : Nat} {head : Bytes} (hhead : Head.IsShortest ⟨.unsigned, n⟩ head) :
      Item.ShortestForm (.unsigned n) head
  | negative {n : Nat} {head : Bytes} (hhead : Head.IsShortest ⟨.negative, n⟩ head) :
      Item.ShortestForm (.negative n) head
  | bytes {data head : Bytes} (hhead : Head.IsShortest ⟨.bytes, data.length⟩ head) :
      Item.ShortestForm (.bytes data) (head ++ data)
  | text {chars : String} {head : Bytes}
      (hhead : Head.IsShortest ⟨.text, (ofText chars).length⟩ head) :
      Item.ShortestForm (.text chars) (head ++ ofText chars)
  | array {items : List Item} {head body : Bytes}
      (hhead : Head.IsShortest ⟨.array, items.length⟩ head) (hbody : ShortestForms items body) :
      Item.ShortestForm (.array items) (head ++ body)
  | map {entries : List (Item × Item)} {head body : Bytes}
      (hhead : Head.IsShortest ⟨.map, entries.length⟩ head)
      (hbody : ShortestForms (entries.flatMap fun entry => [entry.1, entry.2]) body) :
      Item.ShortestForm (.map entries) (head ++ body)
  | tag {number : Nat} {content : Item} {head body : Bytes}
      (hhead : Head.IsShortest ⟨.tag, number⟩ head) (hbody : Item.ShortestForm content body) :
      Item.ShortestForm (.tag number content) (head ++ body)

/-- The shortest forms of items, one behind the other. -/
inductive ShortestForms : List Item → Bytes → Prop
  | nil : ShortestForms [] []
  | cons {item : Item} {items : List Item} {first rest : Bytes}
      (hfirst : Item.ShortestForm item first) (hrest : ShortestForms items rest) :
      ShortestForms (item :: items) (first ++ rest)

end

theorem shortestForms_nil_iff {wire : Bytes} : ShortestForms [] wire ↔ [] = wire :=
  ⟨fun | .nil => rfl, fun h => h ▸ .nil⟩

theorem shortestForms_cons_iff {item : Item} {items : List Item} {wire : Bytes} :
    ShortestForms (item :: items) wire ↔ ∃ first rest, item.ShortestForm first ∧
      ShortestForms items rest ∧ first ++ rest = wire :=
  ⟨fun | .cons hfirst hrest => ⟨_, _, hfirst, hrest, rfl⟩,
    fun ⟨_, _, hfirst, hrest, heq⟩ => heq ▸ .cons hfirst hrest⟩

mutual

/-- An item is written in its shortest form, and has no encoding exactly if it has no such form. -/
theorem Item.encode_eq_ok_iff {wire : Bytes} : (item : Item) →
    (item.encode = .ok wire ↔ item.ShortestForm wire)
  | .unsigned n => by
    rw [Item.encode, MajorType.head_eq_ok_iff]
    exact ⟨.unsigned, fun | .unsigned hhead => hhead⟩
  | .negative n => by
    rw [Item.encode, MajorType.head_eq_ok_iff]
    exact ⟨.negative, fun | .negative hhead => hhead⟩
  | .bytes data => by
    rw [Item.encode, encodeByteString_eq_ok_iff]
    exact ⟨fun ⟨_, hhead, heq⟩ => heq ▸ .bytes hhead, fun | .bytes hhead => ⟨_, hhead, rfl⟩⟩
  | .text chars => by
    rw [Item.encode]
    simp only [do_eq_ok_iff, MajorType.head_eq_ok_iff, pure, Except.pure, Except.ok.injEq]
    exact ⟨fun ⟨_, hhead, heq⟩ => heq ▸ .text hhead, fun | .text hhead => ⟨_, hhead, rfl⟩⟩
  | .array items => by
    rw [Item.encode, append_eq_ok_iff]
    simp only [MajorType.head_eq_ok_iff, encodeItems_eq_ok_iff items]
    exact ⟨fun ⟨_, _, hhead, hbody, heq⟩ => heq ▸ .array hhead hbody,
      fun | .array hhead hbody => ⟨_, _, hhead, hbody, rfl⟩⟩
  | .map entries => by
    rw [Item.encode, append_eq_ok_iff]
    simp only [MajorType.head_eq_ok_iff, encodeEntries_eq_ok_iff entries]
    exact ⟨fun ⟨_, _, hhead, hbody, heq⟩ => heq ▸ .map hhead hbody,
      fun | .map hhead hbody => ⟨_, _, hhead, hbody, rfl⟩⟩
  | .tag number content => by
    rw [Item.encode, append_eq_ok_iff]
    simp only [MajorType.head_eq_ok_iff, Item.encode_eq_ok_iff content]
    exact ⟨fun ⟨_, _, hhead, hbody, heq⟩ => heq ▸ .tag hhead hbody,
      fun | .tag hhead hbody => ⟨_, _, hhead, hbody, rfl⟩⟩

theorem encodeItems_eq_ok_iff {wire : Bytes} : (items : List Item) →
    (encodeItems items = .ok wire ↔ ShortestForms items wire)
  | [] => by
    simp only [encodeItems, pure, Except.pure, Except.ok.injEq, shortestForms_nil_iff]
  | item :: items => by
    rw [encodeItems, append_eq_ok_iff, shortestForms_cons_iff]
    simp only [Item.encode_eq_ok_iff item, encodeItems_eq_ok_iff items]

/-- The entries of a map are written as the items that they consist of. -/
theorem encodeEntries_eq_ok_iff {wire : Bytes} : (entries : List (Item × Item)) →
    (encodeEntries entries = .ok wire ↔
      ShortestForms (entries.flatMap fun entry => [entry.1, entry.2]) wire)
  | [] => by
    simp only [encodeEntries, pure, Except.pure, Except.ok.injEq, List.flatMap_nil,
      shortestForms_nil_iff]
  | (key, value) :: entries => by
    rw [encodeEntries, append_eq_ok_iff, List.flatMap_cons]
    simp only [encodeEntry, append_eq_ok_iff, Item.encode_eq_ok_iff key,
      Item.encode_eq_ok_iff value, encodeEntries_eq_ok_iff entries, List.cons_append,
      List.nil_append, shortestForms_cons_iff]
    -- an entry is written as a whole, its two items belong to one sequence
    refine ⟨?_, ?_⟩
    · rintro ⟨_, rest, ⟨a, b, ha, hb, rfl⟩, hrest, rfl⟩
      exact ⟨a, b ++ rest, ha, ⟨b, rest, hb, hrest, rfl⟩, (List.append_assoc ..).symm⟩
    · rintro ⟨a, _, ha, ⟨b, rest, hb, hrest, rfl⟩, rfl⟩
      exact ⟨a ++ b, rest, ⟨a, b, ha, hb, rfl⟩, hrest, List.append_assoc ..⟩

end

end Rs256Cose.Cbor
