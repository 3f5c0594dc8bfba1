import Mathlib
import Rs256Cose.Keys.Reference
import Rs256Cose.Keys.Storage
import Rs256Cose.Proofs.Keys.Private
import Rs256Cose.Proofs.Rsa.Primality

/-!
# Signing keys on file

Loading a signing key leaves the machine as it is, and a key that was loaded has the size of the
profile.
-/

namespace Rs256Cose.Keys

open Rsa

section

variable [KeyLibrary]

theorem parsePrivateKey_eq_ok_iff {path : String} {text : Bytes} {key : PrivateKey} :
    parsePrivateKey path text = .ok key ↔
      readPrivatePem text = .ok (.rsa key) ∧ key.toPublicKey.size = requiredBits := by
  unfold parsePrivateKey
  rw [← checkSize_eq_ok_iff]
  refine ⟨?_, ?_⟩
  · intro h
    split at h
    any_goals cases h
    next found hfound =>
      split at h
      next hsize =>
        cases h
        exact ⟨hfound, hsize⟩
      · cases h
  · rintro ⟨hread, hsize⟩
    rw [hread]
    simp only [hsize]

theorem parsePrivateKey_eq_unsupported_iff {path description : String} {text : Bytes} :
    parsePrivateKey path text = .error (.unsupported description) ↔
      readPrivatePem text = .error (.unsupported description) := by
  unfold parsePrivateKey
  split
  next hfound => simp [hfound]
  next hfound => simp [hfound]
  next hfound => simp [hfound]
  next hfound => split <;> simp [hfound]

theorem run_loadSigningKey (path : String) (w : World) :
    (loadSigningKey path : StateM World _).run w = (signingKeyOf path (w.files.read path), w) := rfl

theorem loadSigningKey_eq_ok_iff {path : String} {w : World} {key : PrivateKey} :
    ((loadSigningKey path : StateM World _).run w).1 = .ok key ↔
      ∃ text, w.files.read path = .ok text ∧ readPrivatePem text = .ok (.rsa key) ∧
        key.toPublicKey.size = requiredBits := by
  rw [run_loadSigningKey]
  cases w.files.read path with
  | error e => simp [signingKeyOf]
  | ok text => simp [signingKeyOf, mapError_eq_ok_iff, parsePrivateKey_eq_ok_iff]

end

/-! ### A key on file -/

theorem size_specimen : specimen.toPublicKey.size = requiredBits := by decide +kernel

theorem size_mirrored : mirrored.toPublicKey.size = requiredBits := by decide +kernel

theorem exportPublicKey_specimen :
    exportPublicKey specimen.toPublicKey = .ok (encodePublicInfo specimen.toPublicKey) := by
  have hlength : (encodePublicInfo specimen.toPublicKey).length ≤ Profile.maxKeyLength := by
    decide +kernel
  exact exportPublicKey_eq_ok_iff.mpr ⟨rfl, hlength⟩

theorem readPrivatePem_specimen :
    readPrivatePem (encodePrivatePem specimen) = .ok (.rsa specimen) :=
  readPrivatePem_encodePrivatePem isProper_specimen size_specimen (by decide +kernel) rfl

theorem readPrivatePem_mirrored :
    readPrivatePem (encodePrivatePem mirrored) = .ok (.rsa mirrored) :=
  readPrivatePem_encodePrivatePem isProper_mirrored size_mirrored (by decide +kernel) rfl

/-- A world with one signing key on file. -/
def specimenWorld : World :=
  .ofFiles <| (Files.Tree.workingIn ["work"]).put ["work", "key.pem"] <|
    .file (encodePrivatePem specimen)

theorem loadSigningKey_specimen :
    ((loadSigningKey "key.pem" : StateM World _).run specimenWorld).1 = .ok specimen := by
  have hread : specimenWorld.files.read "key.pem" = .ok (encodePrivatePem specimen) := rfl
  exact loadSigningKey_eq_ok_iff.mpr ⟨_, hread, readPrivatePem_specimen, size_specimen⟩

end Rs256Cose.Keys
