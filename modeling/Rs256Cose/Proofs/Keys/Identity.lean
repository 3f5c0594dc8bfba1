import Mathlib
import Rs256Cose.Proofs.Keys.Storage
import Rs256Cose.Proofs.Message.Binding

/-!
# What identifies a key

The identity of a key is its two numbers, one behind the other, with nothing that says where the
second begins. Every key that is loaded has the size of the profile, so its modulus fills a known
number of bytes and the identity tells both numbers (`identity_inj_iff`).
-/

namespace Rs256Cose.Keys

open Rsa

/-- A key of the required size fills the whole width of a signature. -/
theorem length_shortest_modulus {key : PublicKey} (h : key.size = requiredBits) :
    (Bytes.shortest key.modulus).length = 256 := by
  obtain ⟨hlow, hhigh⟩ := modulus_bounds h
  exact Bytes.length_shortest_eq hlow hhigh

theorem identity_inj_iff {key key' : PublicKey} (h : key.size = requiredBits)
    (h' : key'.size = requiredBits) :
    identity key = identity key' ↔ key.modulus = key'.modulus ∧ key.exponent = key'.exponent :=
  Bytes.shortest_append_inj ((length_shortest_modulus h).trans (length_shortest_modulus h').symm)

/-- Without the size the identity says nothing: the second number may begin anywhere. -/
example : identity ⟨0x050301, 0x03⟩ = identity ⟨0x0503, 0x0103⟩ := by decide

/-- A public key has no data but its two numbers. -/
theorem publicKey_eq_iff {key key' : PublicKey} :
    key = key' ↔ key.modulus = key'.modulus ∧ key.exponent = key'.exponent := by
  cases key
  cases key'
  simp

theorem size_of_loadPublicKey [KeyLibrary] {data : Bytes} {key : PublicKey}
    (h : loadPublicKey data = .ok key) : key.size = requiredBits :=
  (loadPublicKey_eq_ok_iff.mp h).2

theorem size_of_loadSigningKey [KeyLibrary] {path : String} {w : World} {key : PrivateKey}
    (h : ((loadSigningKey path : StateM World _).run w).1 = .ok key) :
    key.toPublicKey.size = requiredBits := by
  obtain ⟨-, -, -, hsize⟩ := loadSigningKey_eq_ok_iff.mp h
  exact hsize

/-- A number in the fewest bytes is the shortest byte string that spells it, so it is told from
every other number and begins with a zero byte only if it is zero. Every key that is loaded has 2048
bits, and the identities of such keys are the same if and only if both numbers are. So two keys are
recorded under one digest only if they are the same or their identities collide. -/
theorem identity_determines_key [KeyLibrary] :
    (∀ n bs, Bytes.IsShortest bs n ↔ bs = Bytes.shortest n) ∧
    (∀ n, (Bytes.shortest n).head? = some 0 ↔ n = 0) ∧ Function.Injective Bytes.shortest ∧
    (∀ data key, loadPublicKey data = .ok key → key.size = 2048) ∧
    (∀ path (w : World) key, ((loadSigningKey path : StateM World _).run w).1 = .ok key →
      key.toPublicKey.size = 2048) ∧
    ∀ key key' : PublicKey, key.size = 2048 → key'.size = 2048 →
      (identity key = identity key' ↔
        key.modulus = key'.modulus ∧ key.exponent = key'.exponent) ∧
      (keyHash key = keyHash key' →
        key = key' ∨ Sha256.Collides (identity key) (identity key')) := by
  refine ⟨fun n bs => Bytes.isShortest_iff, fun n => Bytes.head?_shortest_eq_zero_iff,
    Bytes.shortest_injective, fun data key => size_of_loadPublicKey,
    fun path w key => size_of_loadSigningKey, ?_⟩
  intro key key' hsize hsize'
  have hidentity := identity_inj_iff hsize hsize'
  refine ⟨hidentity, fun hhash => ?_⟩
  by_cases hkeys : key = key'
  · exact .inl hkeys
  · exact .inr ⟨fun hsame => hkeys (publicKey_eq_iff.mpr (hidentity.mp hsame)), hhash⟩

/-- Two keys of one modulus. -/
theorem identity_determines_key_mirrored :
    specimen.toPublicKey.size = 2048 ∧ mirrored.toPublicKey.size = 2048 ∧
    identity specimen.toPublicKey ≠ identity mirrored.toPublicKey ∧
    (keyHash specimen.toPublicKey = keyHash mirrored.toPublicKey →
      Sha256.Collides (identity specimen.toPublicKey) (identity mirrored.toPublicKey)) := by
  obtain ⟨-, -, -, -, -, hkeys⟩ := identity_determines_key
  obtain ⟨hidentity, hhash⟩ := hkeys _ _ size_specimen size_mirrored
  have hexponents : specimen.exponent ≠ mirrored.exponent := by decide +kernel
  have hne : specimen.toPublicKey ≠ mirrored.toPublicKey := fun hsame =>
    hexponents (congrArg PublicKey.exponent hsame)
  refine ⟨size_specimen, size_mirrored, fun hsame => hexponents (hidentity.mp hsame).2, ?_⟩
  intro hsame
  exact (hhash hsame).resolve_left hne

end Rs256Cose.Keys
