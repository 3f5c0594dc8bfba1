import Mathlib
import Rs256Cose.Proofs.Commands.Frame

/-!
# What a failed run leaves

No file is written for later use or taken back: a run that signs and does not succeed leaves what it
wrote before it stopped, and in the file that it stopped at a front part at most
(`Program.signStops_of_run`). So it leaves no trace as long as the key does not load or the file of
its hash cannot be opened; afterwards the hash stays. Every other run that does not succeed changes
nothing.
-/

namespace Rs256Cose.Program

open Files Commands CommandLine Keys Log

variable {start : Start} {w w' : World} {ending : Ending}

/-- A run that signs and does not succeed stops in one of the ways of signing, ends as these say and
leaves the files that they leave. Any other run that does not succeed changes no file. -/
theorem signStops_of_run [KeyLibrary]
    (hrun : (run start : StateM World Ending).run w = (ending, w')) (hstatus : ending.status ≠ 0) :
    (∀ o, Signs start o →
      ∃ r, SignStops o w.files r w'.files ∧ ending = .finished (.ofSteps r)) ∧
    ((∀ o, ¬ Signs start o) → w'.files = w.files) := by
  refine ⟨?_, fun hsigns => ?_⟩
  · rintro o ⟨⟨logger, hlogger⟩, hread⟩
    rw [run_eq, hlogger, hread] at hrun
    obtain ⟨rfl, rfl⟩ := Prod.mk.inj hrun
    have hresult : ((sign logger o : StateM World Result).run w).1 ≠ .success :=
      fun hsuccess => hstatus (congrArg (Ending.status <| .finished ·) hsuccess)
    obtain ⟨r, hstops, hends⟩ := signStops_of_sign (l := logger) rfl hresult
    exact ⟨r, hstops, congrArg Ending.finished hends⟩
  · have hfiles := files_run (w := w) hsigns
    rw [hrun] at hfiles
    exact hfiles

/-- A run that is told to sign a file that is not there. -/
theorem run_missing : ∃ w',
    (run (bareStart "m.json") : StateM World Ending).run specimenWorld =
      (.finished .failure, w') ∧
    w'.files = specimenWorld.files.put ["work", "m.signerpubkeyhash"]
      (.file (keyHash Rsa.specimen.toPublicKey).bytes) := by
  have hread : Invocation.read Settings.fallback (bareStart "m.json").words =
      .ok (.sign (bareOptions "m.json")) :=
    (Invocation.read_eq_ok_iff .sign).mpr ⟨_, _, rfl, rfl, rfl, rfl⟩
  have hload : signingKeyOf "key.pem" (specimenWorld.files.read "key.pem") = .ok Rsa.specimen := by
    have hrun := loadSigningKey_specimen
    rw [run_loadSigningKey] at hrun
    dsimp only at hrun
    exact hrun
  have hhash : ∀ hash : Bytes, Path.WritesBeside specimenWorld.files "m.json" ".signerpubkeyhash"
      hash (specimenWorld.files.put ["work", "m.signerpubkeyhash"] (.file hash)) :=
    fun _ => ⟨"m.signerpubkeyhash", rfl, rfl⟩
  have hmissing : ∀ hash : Bytes, (specimenWorld.files.put ["work", "m.signerpubkeyhash"]
      (.file hash)).read (Path.tidy "m.json") = .error (.notFound "m.json") := fun _ => rfl
  have hrecords : Records (bareOptions "m.json") specimenWorld.files Rsa.specimen _ :=
    ⟨hload, hhash _⟩
  obtain ⟨w', hcommand, hfiles⟩ := (fails_of_unread (l := ⟨1, .info⟩) hrecords
    (hmissing _)).attempt_eq_failure (l := ⟨1, .info⟩) rfl
  exact ⟨w', run_unset_eq_finished_iff.mpr ⟨_, hread, hcommand⟩, hfiles⟩

theorem signs_bareStart : Signs (bareStart "m.json") (bareOptions "m.json") := by
  unfold Signs
  rw [show (bareStart "m.json").settings = Settings.fallback from settings_unset _]
  exact ⟨⟨⟨1, .info⟩, rfl⟩, (Invocation.read_eq_ok_iff .sign).mpr ⟨_, _, rfl, rfl, rfl, rfl⟩⟩

/-- This run gets as far as to sign, and does not succeed. -/
theorem signStops_of_run_missing : ∃ w',
    (run (bareStart "m.json") : StateM World Ending).run specimenWorld =
      (.finished .failure, w') ∧
    (Ending.finished .failure).status ≠ 0 ∧ Signs (bareStart "m.json") (bareOptions "m.json") ∧
    ∃ r, SignStops (bareOptions "m.json") specimenWorld.files r w'.files ∧
      Ending.finished .failure = .finished (.ofSteps r) := by
  obtain ⟨w', hrun, -⟩ := run_missing
  obtain ⟨hstops, -⟩ := signStops_of_run hrun (by decide)
  exact ⟨w', hrun, by decide, signs_bareStart, hstops _ signs_bareStart⟩

/-- Such a run makes a file although it fails. -/
theorem run_missing_makes_file :
    specimenWorld.files.exists? "m.signerpubkeyhash" = false ∧ ∃ w',
      (run (bareStart "m.json") : StateM World Ending).run specimenWorld =
        (.finished .failure, w') ∧
      (Ending.finished .failure).status = 1 ∧
      w'.files.read "m.signerpubkeyhash" = .ok (keyHash Rsa.specimen.toPublicKey).bytes := by
  have hread : ∀ hash : Bytes, (specimenWorld.files.put ["work", "m.signerpubkeyhash"]
      (.file hash)).read "m.signerpubkeyhash" = .ok hash := fun _ => rfl
  obtain ⟨w', hrun, hfiles⟩ := run_missing
  exact ⟨rfl, w', hrun, rfl, hfiles ▸ hread _⟩

end Rs256Cose.Program
