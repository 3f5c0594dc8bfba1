import Mathlib
import Rs256Cose.Keys.Private
import Rs256Cose.Proofs.Keys.Public

/-!
# Private keys read back

A private key of the required size whose two exponents are below the modulus is read back from the
PEM that is written for it, if the library takes it (`readPrivatePem_encodePrivatePem`). All other
numbers of a key are below its modulus anyway (`privateNumbers_lt`).
-/

namespace Rs256Cose.Keys

open Asn1 Rsa Text

variable {key : PrivateKey}

/-! ### The numbers -/

/-- The numbers of an RSAPrivateKey in their order. -/
def privateNumbers (key : PrivateKey) : List Nat :=
  [0, key.modulus, key.exponent, key.privateExponent, key.prime1, key.prime2, key.exponent1,
    key.exponent2, key.coefficient]

theorem encodeRsaPrivateKey_eq (key : PrivateKey) :
    encodeRsaPrivateKey key = Der.sequence ((privateNumbers key).map Der.unsigned) := rfl

theorem factor_lt {p q n : Nat} (hp : 1 < p) (hq : 1 < q) (hmul : p * q = n) : p < n := by
  have hlt := Nat.mul_lt_mul_of_pos_left hq (Nat.zero_lt_of_lt hp)
  rwa [Nat.mul_one, hmul] at hlt

theorem privateNumbers_lt (hproper : key.toPublicKey.IsProper)
    (hsize : key.toPublicKey.size = requiredBits) (hprivate : key.privateExponent < key.modulus) :
    ∀ n ∈ privateNumbers key, n < 256 ^ 256 := by
  obtain ⟨-, hmodulus⟩ := modulus_bounds hsize
  have hexponent := hproper.exponent_lt
  have hprime1 := factor_lt key.one_lt_prime1 key.one_lt_prime2 key.modulus_eq
  have hprime2 := factor_lt key.one_lt_prime2 key.one_lt_prime1
    ((Nat.mul_comm _ _).trans key.modulus_eq)
  have hexponent1 : key.exponent1 < key.prime1 - 1 := by
    rw [key.exponent1_eq]
    exact Nat.mod_lt _ (Nat.sub_pos_of_lt key.one_lt_prime1)
  have hexponent2 : key.exponent2 < key.prime2 - 1 := by
    rw [key.exponent2_eq]
    exact Nat.mod_lt _ (Nat.sub_pos_of_lt key.one_lt_prime2)
  have hcoefficient := key.coefficient_lt
  simp only [privateNumbers, List.forall_mem_cons, List.not_mem_nil, false_implies, implies_true,
    and_true]
  omega

theorem ofNumbers?_numbers (key : PrivateKey) :
    PrivateKey.ofNumbers? key.toPublicKey key.privateExponent key.prime1 key.prime2 key.exponent1
      key.exponent2 key.coefficient = some key :=
  dif_pos ⟨⟨⟨key.exponent_odd, key.three_le_exponent⟩, key.prime1_odd, key.prime2_odd⟩,
    ⟨key.one_lt_prime1, key.one_lt_prime2, key.modulus_eq⟩, ⟨key.inverse1, key.inverse2⟩,
    ⟨key.exponent1_eq, key.exponent2_eq⟩, key.coefficient_lt, key.coefficient_inverse⟩

section

variable (hproper : key.toPublicKey.IsProper) (hsize : key.toPublicKey.size = requiredBits)
  (hprivate : key.privateExponent < key.modulus)

include hproper hsize hprivate

theorem rsaPrivateNumbers_encodeRsaPrivateKey :
    rsaPrivateNumbers (encodeRsaPrivateKey key) = some key := by
  have hcount : (privateNumbers key).length = 9 := rfl
  obtain ⟨contents, hwhole, hread⟩ := Der.exists_unsigneds_sequence hcount (by decide)
    (privateNumbers_lt hproper hsize hprivate) (by decide)
  rw [privateNumbers] at hread
  have hkey := ofNumbers?_numbers key
  simp only [rsaPrivateNumbers, encodeRsaPrivateKey_eq, hwhole, bind, Option.bind, hread]
  exact hkey

/-! ### The whole file -/

theorem length_encodeRsaPrivateKey_le : (encodeRsaPrivateKey key).length ≤ 9309 := by
  have hnumbers :=
    Der.length_flatten_unsigned_le (by decide) (privateNumbers_lt hproper hsize hprivate)
  have helement := Der.length_element_le Tag.sequence
    ((privateNumbers key).map Der.unsigned).flatten
  have hcount : (privateNumbers key).length = 9 := rfl
  rw [encodeRsaPrivateKey_eq, Der.sequence]
  omega

theorem readPrivateInfoParts_encodePrivateInfo :
    readPrivateInfoParts (encodePrivateInfo key) =
      some (.rsaEncryption, Der.null, encodeRsaPrivateKey key) := by
  have hkey := length_encodeRsaPrivateKey_le hproper hsize hprivate
  have hcontents : [Der.unsigned 0, rsaAlgorithm,
      Der.octetString (encodeRsaPrivateKey key)].flatten.length < Der.lengthLimit := by
    have helement := Der.length_element_le Tag.octetString (encodeRsaPrivateKey key)
    have halgorithm : rsaAlgorithm.length = 15 := by decide
    have hversion : (Der.unsigned 0).length = 3 := by decide
    refine lt_of_le_of_lt (b := 18639) ?_ (by decide)
    simp only [Der.octetString, List.flatten_cons, List.flatten_nil, List.append_nil,
      List.length_append]
    omega
  have hsplit : [Der.unsigned 0, rsaAlgorithm, Der.octetString (encodeRsaPrivateKey key)].flatten =
      Der.unsigned 0 ++ (Der.element Tag.sequence
        (ObjectIdentifier.rsaEncryption.encode ++ Der.null) ++
        (Der.element Tag.octetString (encodeRsaPrivateKey key) ++ [])) := by
    simp only [rsaAlgorithm, Der.sequence, Der.octetString, List.flatten_cons, List.flatten_nil,
      List.append_nil]
  have hversion := Der.readUnsigned_unsigned (n := 0) (by decide)
  have hsequence : Tag.sequence &&& 0x1f ≠ 0x1f := by decide
  have hparameters : (ObjectIdentifier.rsaEncryption.encode ++ Der.null).length <
      Der.lengthLimit := by decide
  have halgorithm := Der.read_element hsequence hparameters
  have hoctets : Tag.octetString &&& 0x1f ≠ 0x1f := by decide
  have hinner := Der.read_element hoctets (lt_of_le_of_lt hkey (by decide)) []
  -- no attributes follow the key
  have hrest : skipOptional (Tag.context 0) [] = [] := rfl
  simp only [readPrivateInfoParts, encodePrivateInfo, Der.whole_sequence hcontents, bind,
    Option.bind, hsplit, hversion, halgorithm, ObjectIdentifier.read_rsaEncryption, hinner, hrest,
    and_self, if_true]

/-! ### Reading -/

variable [KeyLibrary] (hadmits : KeyLibrary.admitsPrivate key = true)

include hadmits

theorem readRsaPrivateKey_encodeRsaPrivateKey :
    readRsaPrivateKey (encodeRsaPrivateKey key) = .ok (.rsa key) := by
  rw [readRsaPrivateKey, rsaPrivateNumbers_encodeRsaPrivateKey hproper hsize hprivate,
    Option.filter_some_pos hadmits]

theorem readPrivateInfo_encodePrivateInfo :
    readPrivateInfo (encodePrivateInfo key) = .ok (.rsa key) := by
  have hnull : isNoParameters Der.null = true := by decide
  simp only [readPrivateInfo, readPrivateInfoParts_encodePrivateInfo hproper hsize hprivate,
    if_true, hnull, readRsaPrivateKey_encodeRsaPrivateKey hproper hsize hprivate hadmits]

theorem readPrivatePem_encodePrivatePem :
    readPrivatePem (encodePrivatePem key) = .ok (.rsa key) := by
  have hlabels : privateLabel ∈ privateLabels := List.mem_cons_self
  have hdash : (0x2d : UInt8) ∉ privateLabel := by decide
  have hne : privateLabel ≠ [] := by decide
  have hblock := Pem.find?_encode ⟨privateLabel, encodePrivateInfo key⟩ hlabels hdash hne []
  rw [List.append_nil] at hblock
  simp only [readPrivatePem, encodePrivatePem, hblock, if_true,
    readPrivateInfo_encodePrivateInfo hproper hsize hprivate hadmits]

end

end Rs256Cose.Keys
