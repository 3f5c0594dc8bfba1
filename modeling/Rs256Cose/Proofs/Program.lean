import Mathlib
import Rs256Cose.Program
import Rs256Cose.Proofs.Commands.Run

/-!
# Runs of the program

A run finishes with what its command ends in if and only if there is a logger and the command line
is read (`run_eq_finished_iff`). Where nothing is set, only the command line decides
(`run_unset_eq_finished_iff`).
-/

namespace Rs256Cose

/-! ### Settings where nothing is set -/

namespace Settings

theorem readBindings_empty : readBindings "" = [] := by
  have hnil : "".toList = [] := rfl
  rw [readBindings, hnil, Binding.readAll]
  rfl

/-- The settings of which none was chosen. -/
def fallback : Settings where
  keyPath := "keys/signer_rsa2048_sk.pem"
  outputFormat := "cosesign1"
  embedKey := true
  logLevel := "INFO"

theorem load_empty : load [] "" = fallback := by
  have hnone : ∀ name, value? [] (readBindings "") name = none := by
    intro name
    rw [readBindings_empty]
    rfl
  have hlevel : Text.upperCase "INFO" = "INFO" := by decide +kernel
  simp only [load, hnone, Option.getD_none, hlevel]
  rfl

end Settings

namespace Program

open Commands CommandLine Log

/-- The settings that a run goes by. -/
def Start.settings (start : Start) : Settings := .load start.environment start.bindings

theorem settings_unset (words : List String) :
    Start.settings ⟨[], "", words⟩ = Settings.fallback :=
  Settings.load_empty

section

variable [Keys.KeyLibrary]

/-- A run ends for want of a logger, with the command line, or as its command ends. -/
theorem run_eq (start : Start) (w : World) : (run start : StateM World Ending).run w =
    match Logger.fresh.setUp start.settings.logLevel,
      Invocation.read start.settings start.words with
    | (.error error, _), _ => (.unlogged error, w)
    | (.ok (), _), .error stop => (.stopped stop, w)
    | (.ok (), logger), .ok invocation =>
      let after := (runCommand logger invocation : StateM World Result).run w
      (.finished after.1, after.2) := by
  have hsettings : Settings.load start.environment start.bindings = start.settings := rfl
  unfold run
  simp only [hsettings]
  generalize start.settings = settings
  generalize Logger.fresh.setUp settings.logLevel = attached
  generalize Invocation.read settings start.words = reading
  rcases attached with ⟨error | ⟨⟨⟩⟩, logger⟩
  · rfl
  · cases reading with
    | error stop => rfl
    | ok invocation => rfl

theorem run_eq_finished_iff {start : Start} {w w' : World} {result : Result} :
    (run start : StateM World Ending).run w = (.finished result, w') ↔ ∃ logger invocation,
      Logger.fresh.setUp start.settings.logLevel = (.ok (), logger) ∧
      Invocation.read start.settings start.words = .ok invocation ∧
      (runCommand logger invocation : StateM World Result).run w = (result, w') := by
  rw [run_eq]
  generalize Logger.fresh.setUp start.settings.logLevel = attached
  generalize Invocation.read start.settings start.words = reading
  rcases attached with ⟨error | ⟨⟨⟩⟩, logger⟩
  · exact ⟨nofun, nofun⟩
  · cases reading with
    | error stop => exact ⟨nofun, nofun⟩
    | ok invocation =>
      simp only [Prod.mk.injEq, true_and, Except.ok.injEq, exists_eq_left', exists_and_left]
      rcases (runCommand logger invocation : StateM World Result).run w with ⟨ended, after⟩
      change (Ending.finished ended, after) = (.finished result, w') ↔ (ended, after) = (result, w')
      simp

theorem run_unset_eq_finished_iff {words : List String} {w w' : World} {result : Result} :
    (run ⟨[], "", words⟩ : StateM World Ending).run w = (.finished result, w') ↔ ∃ invocation,
      Invocation.read Settings.fallback words = .ok invocation ∧
      (runCommand ⟨1, .info⟩ invocation : StateM World Result).run w = (result, w') := by
  have hlogger : Logger.fresh.setUp Settings.fallback.logLevel = (.ok (), ⟨1, .info⟩) := rfl
  rw [run_eq_finished_iff, settings_unset, hlogger]
  simp

end

end Program

end Rs256Cose
