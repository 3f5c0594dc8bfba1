import Mathlib
import Rs256Cose.Proofs.CommandLine.Invocation
import Rs256Cose.Proofs.Message.Signing
import Rs256Cose.Proofs.Program

/-!
# Verifying a file

`verify` succeeds if and only if the message in the file is accepted under the trusted key that is
named, or without one (`verifyFile_eq_success_iff`). So a run that names a trusted key succeeds only
under the key in that file (`Program.verified_of_run`), as long as the name is not empty. An empty
name counts as none, and the embedded key decides.
-/

namespace Rs256Cose

open Files Keys

namespace Commands

section

variable [KeyLibrary]

/-- The file at a path holds a public key that may sign, and this is its one DER form. -/
def HoldsKey (files : Tree) (path : String) (der : Bytes) : Prop :=
  ∃ text key, files.read (Path.tidy path) = .ok text ∧ loadPublicKey text = .ok key ∧
    key.size = 2048 ∧ exportPublicKey key = .ok der

/-- The trusted key, if any, that an option leads to; an empty path leads to none. -/
def Trusts (files : Tree) : Option String → Option Bytes → Prop
  | none, trusted => trusted = none
  | some path, trusted =>
    if path = "" then trusted = none else ∃ der, HoldsKey files path der ∧ trusted = some der

variable {w w' : World}

theorem gives_readTrustedKey_iff {path : String} {der : Bytes} :
    Gives (readTrustedKey path) w der w' ↔ HoldsKey w.files path der ∧ w = w' := by
  unfold readTrustedKey HoldsKey
  simp only [gives_bind_iff, gives_readFile_iff, gives_liftM_iff, mapError_eq_ok_iff]
  refine ⟨?_, ?_⟩
  · rintro ⟨text, w₁, ⟨hread, rfl⟩, key, w₂, ⟨hload, rfl⟩, hexport, rfl⟩
    exact ⟨⟨text, key, hread, hload, (loadPublicKey_eq_ok_iff.mp hload).2, hexport⟩, rfl⟩
  · rintro ⟨⟨text, key, hread, hload, -, hexport⟩, rfl⟩
    exact ⟨text, w, ⟨hread, rfl⟩, key, w, ⟨hload, rfl⟩, hexport, rfl⟩

/-- The step that reads the trusted key, if one is named. -/
def readTrusted : Option String → ExceptT Failure (StateM World) (Option Bytes)
  | none => pure none
  | some path => if path = "" then pure none else some <$> readTrustedKey path

theorem gives_readTrusted_iff {pub : Option String} {trusted : Option Bytes} :
    Gives (readTrusted pub) w trusted w' ↔ Trusts w.files pub trusted ∧ w = w' := by
  cases pub with
  | none => rw [readTrusted, Trusts, gives_pure_iff, eq_comm]
  | some path =>
    rw [readTrusted, Trusts]
    split_ifs
    · rw [gives_pure_iff, eq_comm]
    · simp only [gives_map_iff, gives_readTrustedKey_iff]
      refine ⟨?_, ?_⟩
      · rintro ⟨der, ⟨hkey, rfl⟩, rfl⟩
        exact ⟨⟨der, hkey, rfl⟩, rfl⟩
      · rintro ⟨⟨der, hkey, rfl⟩, rfl⟩
        exact ⟨der, ⟨hkey, rfl⟩, rfl⟩

theorem verifyFile_eq (l : Log.Logger) (o : VerifyOptions) : verifyFile l o =
    attempt l "verify" do
      let data ← readFile o.input
      let trusted ← readTrusted o.trusted
      let verified ← (verify data trusted).mapError Failure.ofVerifyError
      Host.print (verifiedText verified)
      return .success := by
  unfold verifyFile
  congr
  funext data
  split
  · next hnone => rw [hnone, readTrusted]
  · next hempty => rw [hempty, readTrusted, if_pos rfl]
  · next path hpath hsome => rw [hsome, readTrusted, if_neg hpath]

theorem verifyFile_eq_success_iff {l : Log.Logger} {o : VerifyOptions} :
    (verifyFile l o : StateM World Result).run w = (.success, w') ↔ ∃ data trusted v,
      w.files.read (Path.tidy o.input) = .ok data ∧ Trusts w.files o.trusted trusted ∧
      verify data trusted = .ok v ∧
      { w with printed := w.printed ++ [verifiedText v] } = w' := by
  rw [verifyFile_eq, attempt_eq_success_iff]
  simp only [gives_bind_iff, gives_readFile_iff, gives_readTrusted_iff, gives_liftM_iff,
    gives_print_iff, gives_pure_iff, mapError_eq_ok_iff]
  refine ⟨?_, ?_⟩
  · rintro ⟨data, _, ⟨hread, rfl⟩, trusted, _, ⟨htrusted, rfl⟩, v, _, ⟨hverify, rfl⟩, -, _, rfl, -,
      rfl⟩
    exact ⟨data, trusted, v, hread, htrusted, hverify, rfl⟩
  · rintro ⟨data, trusted, v, hread, htrusted, hverify, rfl⟩
    exact ⟨data, w, ⟨hread, rfl⟩, trusted, w, ⟨htrusted, rfl⟩, v, w, ⟨hverify, rfl⟩, (), _, rfl,
      trivial, rfl⟩

end

end Commands

namespace Program

open Commands CommandLine

/-- A run that names a trusted key succeeds only if the file of that key holds a usable one and the
message in the other file is accepted under it. -/
theorem verified_of_run [KeyLibrary] {start : Start} {w w' : World} {file pub : String}
    (hwords : start.words = ["verify", file, "--pub", pub]) (hpub : pub ≠ "")
    (hrun : (run start : StateM World Ending).run w = (.finished .success, w')) :
    ∃ data der v, w.files.read (Path.tidy file) = .ok data ∧ HoldsKey w.files pub der ∧
      verify data (some der) = .ok v := by
  obtain ⟨logger, invocation, -, hread, hcommand⟩ := run_eq_finished_iff.mp hrun
  rw [hwords] at hread
  obtain rfl := Invocation.eq_verify_of_read hread
  obtain ⟨data, trusted, v, hdata, htrusted, hverify, -⟩ := verifyFile_eq_success_iff.mp hcommand
  rw [Trusts, if_neg hpub] at htrusted
  obtain ⟨der, hkey, rfl⟩ := htrusted
  exact ⟨data, der, v, hdata, hkey, hverify⟩

/-- A world with a signed message and the PEM of the key that it is signed under. -/
def signedWorld : World :=
  .ofFiles <| ((Tree.workingIn ["work"]).put ["work", "m.cosesign1"] <|
    .file Message.signedSpecimen.layout).put ["work", "key.pub"] <|
    .file (encodePublicPem Rsa.specimen.toPublicKey)

theorem verified_of_run_specimen :
    ∃ w', (run ⟨[], "", ["verify", "m.cosesign1", "--pub", "key.pub"]⟩ : StateM World Ending).run
        signedWorld = (.finished .success, w') ∧
      ∃ data der v, signedWorld.files.read (Path.tidy "m.cosesign1") = .ok data ∧
        HoldsKey signedWorld.files "key.pub" der ∧ verify data (some der) = .ok v := by
  have hread : Invocation.read Settings.fallback ["verify", "m.cosesign1", "--pub", "key.pub"] =
      .ok (.verify ⟨"m.cosesign1", some "key.pub"⟩) :=
    (Invocation.read_eq_ok_iff .verify).mpr ⟨_, _, rfl, rfl, rfl, rfl⟩
  have hkey : HoldsKey signedWorld.files "key.pub" Message.signedSpecimen.key.der :=
    ⟨_, _, rfl, loadPublicKey_pem Rsa.isProper_specimen size_specimen, size_specimen,
      exportPublicKey_specimen⟩
  have hcommand := verifyFile_eq_success_iff (w := signedWorld) (l := ⟨1, .info⟩)
    (o := ⟨"m.cosesign1", some "key.pub"⟩) |>.mpr
      ⟨_, _, _, rfl, ⟨_, hkey, rfl⟩, verify_signedSpecimen rfl, rfl⟩
  have hrun := run_unset_eq_finished_iff.mpr ⟨_, hread, hcommand⟩
  exact ⟨_, hrun, verified_of_run rfl (by decide) hrun⟩

/-- An empty name of a trusted key is no name: the run succeeds under the embedded key. -/
theorem run_verify_empty :
    ∃ w', (run ⟨[], "", ["verify", "m.cosesign1", "--pub", ""]⟩ : StateM World Ending).run
        signedWorld = (.finished .success, w') ∧
      ¬ ∃ data der v, signedWorld.files.read (Path.tidy "m.cosesign1") = .ok data ∧
        HoldsKey signedWorld.files "" der ∧ verify data (some der) = .ok v := by
  have hread : Invocation.read Settings.fallback ["verify", "m.cosesign1", "--pub", ""] =
      .ok (.verify ⟨"m.cosesign1", some ""⟩) :=
    (Invocation.read_eq_ok_iff .verify).mpr ⟨_, _, rfl, rfl, rfl, rfl⟩
  have hcommand := verifyFile_eq_success_iff (w := signedWorld) (l := ⟨1, .info⟩)
    (o := ⟨"m.cosesign1", some ""⟩) |>.mpr
      ⟨_, none, _, rfl, rfl, verify_signedSpecimen rfl, rfl⟩
  refine ⟨_, run_unset_eq_finished_iff.mpr ⟨_, hread, hcommand⟩, ?_⟩
  rintro ⟨data, der, v, -, ⟨text, key, htext, -⟩, -⟩
  -- the tidy form of the empty name is the directory itself
  cases htext

end Program

end Rs256Cose
