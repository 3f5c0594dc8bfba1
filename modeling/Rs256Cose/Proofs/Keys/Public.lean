import Mathlib
import Rs256Cose.Keys.Public
import Rs256Cose.Proofs.Asn1.Der
import Rs256Cose.Proofs.Steps
import Rs256Cose.Proofs.Text.Pem

/-!
# Public keys read back

Whatever the library, a proper key of the required size is loaded from its own
SubjectPublicKeyInfo, in DER (`loadPublicKey_encodePublicInfo`) or PEM
(`loadPublicKey_encodePublicPem`), so an exported key is the one that was exported
(`loadPublicKey_of_exportPublicKey`). A loaded key always has the required size. Of the files that
hold no such key, those with one that the library does not support are told apart from all others
(`loadPublicKey_eq_unsupported_iff`).
-/

namespace Rs256Cose.Keys

open Asn1 Rsa Text

/-! ### Size -/

theorem checkSize_eq_ok_iff {key : PublicKey} :
    checkSize key = .ok () ↔ key.size = requiredBits := by
  unfold checkSize
  split_ifs with h
  · simp [h]
  · simp [h]

theorem loadPublicKey_eq_ok_iff [KeyLibrary] {data : Bytes} {key : PublicKey} :
    loadPublicKey data = .ok key ↔
      readPublicKey data = .ok (.rsa key) ∧ key.size = requiredBits := by
  unfold loadPublicKey
  rw [← checkSize_eq_ok_iff]
  refine ⟨?_, ?_⟩
  · intro h
    split at h
    any_goals cases h
    next found hfound =>
      split at h
      next hsize =>
        cases h
        exact ⟨hfound, hsize⟩
      · cases h
  · rintro ⟨hread, hsize⟩
    rw [hread]
    simp only [hsize]

/-- The modulus of a key of the required size is as wide as a signature. -/
theorem modulus_bounds {key : PublicKey} (h : key.size = requiredBits) :
    256 ^ 255 ≤ key.modulus ∧ key.modulus < 256 ^ 256 := by
  have hbits : Bytes.bitLength key.modulus = 8 * 256 := h
  have hne : key.modulus ≠ 0 := by
    intro h0
    rw [h0] at hbits
    cases hbits
  have hlow := Bytes.two_pow_le_of_ne_zero hne
  have hhigh := Bytes.lt_two_pow_bitLength key.modulus
  rw [hbits] at hlow hhigh
  rw [Bytes.pow_byte, Bytes.pow_byte]
  have hle : 8 * 255 ≤ 8 * 256 - 1 := by decide
  exact ⟨le_trans (pow_le_pow_right₀ (by decide) hle) hlow, hhigh⟩

/-! ### The numbers -/

section

variable {key : PublicKey} (hlt : key.exponent < key.modulus) (h : key.size = requiredBits)

include hlt h

/-- Both numbers are as wide as the modulus at most. -/
theorem numbers_lt : ∀ n ∈ [key.modulus, key.exponent], n < 256 ^ 256 := by
  obtain ⟨-, hmodulus⟩ := modulus_bounds h
  intro n hn
  rcases List.mem_pair.mp hn with rfl | rfl
  · exact hmodulus
  · exact lt_trans hlt hmodulus

theorem rsaPublicNumbers_encodeRsaPublicKey :
    rsaPublicNumbers (encodeRsaPublicKey key) = some key := by
  have hcount : [key.modulus, key.exponent].length = 2 := rfl
  obtain ⟨contents, hwhole, hread⟩ :=
    Der.exists_unsigneds_sequence hcount (by decide) (numbers_lt hlt h) (by decide)
  have hencode : encodeRsaPublicKey key =
      Der.sequence ([key.modulus, key.exponent].map Der.unsigned) := rfl
  simp only [rsaPublicNumbers, hencode, hwhole, bind, Option.bind, hread]

/-! ### The whole file -/

theorem length_encodeRsaPublicKey_le : (encodeRsaPublicKey key).length ≤ 2100 := by
  have hnumbers := Der.length_flatten_unsigned_le (by decide) (numbers_lt hlt h)
  have helement := Der.length_element_le Tag.sequence
    ([key.modulus, key.exponent].map Der.unsigned).flatten
  have hencode : encodeRsaPublicKey key =
      Der.element Tag.sequence ([key.modulus, key.exponent].map Der.unsigned).flatten := rfl
  rw [List.length_cons, List.length_singleton] at hnumbers
  rw [hencode]
  omega

theorem readPublicInfoParts_encodePublicInfo :
    readPublicInfoParts (encodePublicInfo key) =
      some (.rsaEncryption, Der.null, 0, encodeRsaPublicKey key) := by
  have hkey := length_encodeRsaPublicKey_le hlt h
  have hbits : (0x00 :: encodeRsaPublicKey key).length < Der.lengthLimit := by
    refine lt_of_le_of_lt (b := 2101) ?_ (by decide)
    rw [List.length_cons]
    omega
  have hcontents : [rsaAlgorithm, Der.bitString (encodeRsaPublicKey key)].flatten.length <
      Der.lengthLimit := by
    have helement := Der.length_element_le Tag.bitString (0x00 :: encodeRsaPublicKey key)
    have halgorithm : rsaAlgorithm.length = 15 := by decide
    refine lt_of_le_of_lt (b := 4300) ?_ (by decide)
    simp only [Der.bitString, List.flatten_cons, List.flatten_nil, List.append_nil,
      List.length_append, List.length_cons] at helement ⊢
    omega
  have hsplit : [rsaAlgorithm, Der.bitString (encodeRsaPublicKey key)].flatten =
      Der.element Tag.sequence (ObjectIdentifier.rsaEncryption.encode ++ Der.null) ++
        Der.element Tag.bitString (0x00 :: encodeRsaPublicKey key) := by
    simp only [rsaAlgorithm, Der.sequence, Der.bitString, List.flatten_cons, List.flatten_nil,
      List.append_nil]
  have hsequence : Tag.sequence &&& 0x1f ≠ 0x1f := by decide
  have hparameters : (ObjectIdentifier.rsaEncryption.encode ++ Der.null).length <
      Der.lengthLimit := by decide
  have halgorithm := Der.read_element hsequence hparameters
  have htag : Tag.bitString &&& 0x1f ≠ 0x1f := by decide
  simp only [readPublicInfoParts, encodePublicInfo, Der.whole_sequence hcontents, bind,
    Option.bind, hsplit, halgorithm, ObjectIdentifier.read_rsaEncryption,
    Der.whole_element htag hbits, Der.bitsOfContents_zero, pure]

end

section

variable [KeyLibrary] {key : PublicKey} (hproper : key.IsProper) (h : key.size = requiredBits)

include hproper h

theorem readRsaPublicKey_encodeRsaPublicKey :
    readRsaPublicKey (encodeRsaPublicKey key) = some key := by
  rw [readRsaPublicKey, rsaPublicNumbers_encodeRsaPublicKey hproper.exponent_lt h]
  exact Option.filter_some_pos (KeyLibrary.admits_of_isProper key hproper h)

theorem readPublicInfo_encodePublicInfo :
    readPublicInfo (encodePublicInfo key) = .ok (.rsa key) := by
  have hnull : isNoParameters Der.null = true := by decide
  have hparts := readPublicInfoParts_encodePublicInfo hproper.exponent_lt h
  simp only [readPublicInfo, hparts, readPublicBits, hnull, and_self, if_true,
    readRsaPublicKey_encodeRsaPublicKey hproper h]

end

/-- DER begins with the tag of a sequence, which no PEM does. -/
theorem not_pemOpening_isPrefixOf_encodePublicInfo (key : PublicKey) :
    pemOpening.isPrefixOf ((encodePublicInfo key).dropWhile Pem.isBlank) = false := by
  have hblank : Pem.isBlank Tag.sequence = false := by decide
  unfold encodePublicInfo
  rw [Der.sequence, Der.element, List.cons_append,
    List.dropWhile_cons_of_neg (by simp [hblank])]
  rfl

theorem loadPublicKey_encodePublicInfo [KeyLibrary] {key : PublicKey} (hproper : key.IsProper)
    (h : key.size = requiredBits) : loadPublicKey (encodePublicInfo key) = .ok key := by
  rw [loadPublicKey_eq_ok_iff]
  refine ⟨?_, h⟩
  simp only [readPublicKey, not_pemOpening_isPrefixOf_encodePublicInfo, Bool.false_eq_true,
    if_false, readPublicDer, readPublicInfo_encodePublicInfo hproper h]

/-! ### PEM -/

/-- The PEM of a key, after white space and with text behind it, is told from DER. -/
theorem pemOpening_isPrefixOf_encodePublicPem (key : PublicKey) {before : Bytes}
    (hbefore : ∀ b ∈ before, Pem.isBlank b = true) (rest : Bytes) :
    pemOpening.isPrefixOf ((before ++ (encodePublicPem key ++ rest)).dropWhile Pem.isBlank) =
      true := by
  have hopening : pemOpening <+: Pem.beginMark := by decide
  have hdrop : (encodePublicPem key ++ rest).dropWhile Pem.isBlank = encodePublicPem key ++ rest :=
    List.dropWhile_cons_of_neg (by decide)
  rw [List.dropWhile_append_of_pos hbefore, hdrop, List.isPrefixOf_iff_prefix]
  refine hopening.trans ?_
  simp only [encodePublicPem, Pem.encode, List.append_assoc]
  exact List.prefix_append _ _

theorem readPublicPem_encodePublicPem [KeyLibrary] {key : PublicKey} (hproper : key.IsProper)
    (h : key.size = requiredBits) {before : Bytes} (hbefore : (0x2d : UInt8) ∉ before)
    (rest : Bytes) :
    readPublicPem (before ++ (encodePublicPem key ++ rest)) = .ok (.rsa key) := by
  have hlabel : (0x2d : UInt8) ∉ publicLabel := by decide
  have hne : publicLabel ≠ [] := by decide
  have hblock := Pem.readBlock_encode ⟨publicLabel, encodePublicInfo key⟩ hbefore hlabel hne rest
  rw [readPublicPem, encodePublicPem, hblock]
  simp only [if_true, readPublicInfo_encodePublicInfo hproper h]

/-- White space before the PEM of a key and text behind it do not matter. -/
theorem loadPublicKey_encodePublicPem [KeyLibrary] {key : PublicKey} (hproper : key.IsProper)
    (h : key.size = requiredBits) {before : Bytes}
    (hbefore : ∀ b ∈ before, Pem.isBlank b = true) (rest : Bytes) :
    loadPublicKey (before ++ (encodePublicPem key ++ rest)) = .ok key := by
  have hdash : (0x2d : UInt8) ∉ before := fun hmem => by
    cases hbefore _ hmem
  rw [loadPublicKey_eq_ok_iff]
  refine ⟨?_, h⟩
  rw [readPublicKey, if_pos (pemOpening_isPrefixOf_encodePublicPem key hbefore rest),
    readPublicPem_encodePublicPem hproper h hdash rest]

theorem loadPublicKey_pem [KeyLibrary] {key : PublicKey} (hproper : key.IsProper)
    (h : key.size = requiredBits) : loadPublicKey (encodePublicPem key) = .ok key := by
  have hload := loadPublicKey_encodePublicPem hproper h (List.forall_mem_nil _) []
  rwa [List.nil_append, List.append_nil] at hload

/-! ### Export -/

theorem exportPublicKey_eq_ok_iff {key : PublicKey} {der : Bytes} :
    exportPublicKey key = .ok der ↔
      encodePublicInfo key = der ∧ der.length ≤ Profile.maxKeyLength := by
  rw [exportPublicKey]
  split_ifs with h
  · refine ⟨?_, ?_⟩
    · intro h'
      cases h'
    · rintro ⟨rfl, hle⟩
      omega
  · refine ⟨?_, ?_⟩
    · intro h'
      cases h'
      exact ⟨rfl, by omega⟩
    · rintro ⟨rfl, -⟩
      rfl

theorem loadPublicKey_of_exportPublicKey [KeyLibrary] {key : PublicKey} {der : Bytes}
    (hproper : key.IsProper) (h : key.size = requiredBits)
    (hexport : exportPublicKey key = .ok der) : loadPublicKey der = .ok key := by
  obtain ⟨rfl, -⟩ := exportPublicKey_eq_ok_iff.mp hexport
  exact loadPublicKey_encodePublicInfo hproper h

/-- An exported key is not the empty byte string that stands for no key. -/
theorem ne_nil_of_exportPublicKey {key : PublicKey} {der : Bytes}
    (hexport : exportPublicKey key = .ok der) : der ≠ [] := by
  obtain ⟨rfl, -⟩ := exportPublicKey_eq_ok_iff.mp hexport
  unfold encodePublicInfo
  rw [Der.sequence, Der.element]
  exact List.cons_ne_nil _ _

/-! ### Keys that the library does not support -/

section

variable [KeyLibrary] {der file text : Bytes} {description : String}

/-- Data that are a SubjectPublicKeyInfo by their parts, with a key of another algorithm that the
library does not support. -/
def IsUnsupportedInfo (der : Bytes) (description : String) : Prop :=
  ∃ oid parameters unused bytes,
    readPublicInfoParts der = some (oid, parameters, unused, bytes) ∧ oid ≠ .rsaEncryption ∧
    KeyLibrary.publicKey oid parameters unused bytes = .error (.unsupported description)

/-- A file of a public key that the library does not support, framed as PEM or bare. -/
def HoldsUnsupportedKey (file : Bytes) (description : String) : Prop :=
  if pemOpening.isPrefixOf (file.dropWhile Pem.isBlank) then
    ∃ block rest, Pem.readBlock file = some (some block, rest) ∧ block.label = publicLabel ∧
      IsUnsupportedInfo block.contents description
  else readRsaPublicKey file = none ∧ IsUnsupportedInfo file description

theorem readPublicInfo_eq_unsupported_iff :
    readPublicInfo der = .error (.unsupported description) ↔
      IsUnsupportedInfo der description := by
  unfold readPublicInfo IsUnsupportedInfo
  split
  next hparts => simp [hparts]
  next oid parameters unused bytes hparts =>
    simp only [hparts, Option.some.injEq, Prod.mk.injEq]
    refine ⟨?_, ?_⟩
    · intro h
      unfold readPublicBits at h
      split_ifs at h with hrsa
      · split at h <;> cases h
      · cases h
      · exact ⟨oid, parameters, unused, bytes, ⟨rfl, rfl, rfl, rfl⟩, hrsa, h⟩
    · rintro ⟨_, _, _, _, ⟨rfl, rfl, rfl, rfl⟩, hrsa, h⟩
      rw [readPublicBits, if_neg hrsa, h]

theorem readPublicPem_eq_unsupported_iff :
    readPublicPem text = .error (.unsupported description) ↔ ∃ block rest,
      Pem.readBlock text = some (some block, rest) ∧ block.label = publicLabel ∧
      IsUnsupportedInfo block.contents description := by
  simp only [← readPublicInfo_eq_unsupported_iff]
  refine ⟨?_, ?_⟩
  · intro h
    unfold readPublicPem at h
    split at h
    next block rest hblock =>
      split_ifs at h with hlabel
      · exact ⟨block, rest, hblock, hlabel, h⟩
      · split at h <;> cases h
      · cases h
    · cases h
  · rintro ⟨block, rest, hblock, hlabel, h⟩
    simp only [readPublicPem, hblock, if_pos hlabel, h]

theorem readPublicDer_eq_unsupported_iff :
    readPublicDer der = .error (.unsupported description) ↔
      readRsaPublicKey der = none ∧ IsUnsupportedInfo der description := by
  rw [← readPublicInfo_eq_unsupported_iff]
  unfold readPublicDer
  split
  next hinfo => simp [hinfo]
  next hkey => simp [hkey]
  next hinfo hkey => simp [hinfo, hkey]

/-- A file with a key that the library does not support is the one that is not simply refused. -/
theorem loadPublicKey_eq_unsupported_iff :
    loadPublicKey file = .error (.unsupported description) ↔
      HoldsUnsupportedKey file description := by
  have hread : HoldsUnsupportedKey file description ↔
      readPublicKey file = .error (.unsupported description) := by
    rw [HoldsUnsupportedKey, readPublicKey, ← readPublicPem_eq_unsupported_iff,
      ← readPublicDer_eq_unsupported_iff]
    split_ifs <;> rfl
  rw [hread]
  unfold loadPublicKey
  split
  next hfound => simp [hfound]
  next hfound => simp [hfound]
  next hfound => simp [hfound]
  next hfound => split <;> simp [hfound]

end

end Rs256Cose.Keys
