import Mathlib
import Rs256Cose.Proofs.Commands.Run

/-!
# Runs of commands that fail

`Fails step w f t`: run in the world `w` the step fails for the reason `f` and leaves the files `t`.
A chain fails where one of its steps does after those before it gave their answers
(`fails_bind_iff`). A single step that fails leaves the files as they are, but for a write that
breaks off (`FailsBeside`). What a failure makes of the run is the business of `attempt` alone
(`run_attempt`): it is logged, or it aborts the run.
-/

namespace Rs256Cose.Commands

open Files Log

/-- Run in this world, the step fails for this reason and leaves these files. -/
def Fails {α : Type} (step : ExceptT Failure (StateM World) α) (w : World) (f : Failure)
    (t : Tree) : Prop :=
  (runIn step w).1 = .error f ∧ (runIn step w).2.files = t

section

variable {α β : Type} {w w' : World} {a : α} {f : Failure} {t : Tree}

theorem not_fails_of_gives {step : ExceptT Failure (StateM World) α} (h : Gives step w a w') :
    ¬ Fails step w f t := by
  rintro ⟨hfails, -⟩
  rw [Gives] at h
  rw [h] at hfails
  cases hfails

theorem fails_bind_iff {step : ExceptT Failure (StateM World) α}
    {next : α → ExceptT Failure (StateM World) β} :
    Fails (step >>= next) w f t ↔
      Fails step w f t ∨ ∃ a w₁, Gives step w a w₁ ∧ Fails (next a) w₁ f t := by
  unfold Fails Gives
  rw [runIn_bind]
  rcases runIn step w with ⟨f' | a, w₁⟩
  · simp
  · simp

theorem not_fails_pure {c : α} : ¬ Fails (pure c) w f t :=
  not_fails_of_gives (gives_pure_iff.mpr ⟨rfl, rfl⟩)

theorem fails_throw_iff {f' : Failure} :
    Fails (throw f' : ExceptT Failure (StateM World) α) w f t ↔ f' = f ∧ w.files = t := by
  have hrun : runIn (throw f' : ExceptT Failure (StateM World) α) w = (.error f', w) := rfl
  simp [Fails, hrun]

theorem fails_liftM_iff {x : Except Failure α} :
    Fails (liftM x) w f t ↔ x = .error f ∧ w.files = t := by
  have hrun : runIn (liftM x) w = (x, w) := rfl
  simp [Fails, hrun]

theorem not_fails_lift {x : StateM World α} : ¬ Fails (ExceptT.lift x) w f t :=
  not_fails_of_gives (gives_lift_iff.mpr ⟨rfl, rfl⟩)

theorem fails_map_iff {step : ExceptT Failure (StateM World) α} {g : α → β} :
    Fails (g <$> step) w f t ↔ Fails step w f t := by
  rw [← bind_pure_comp, fails_bind_iff]
  exact or_iff_left fun ⟨_, _, _, h⟩ => not_fails_pure h

theorem not_fails_log {l : Logger} {s : Severity} {message : String} :
    ¬ Fails (log l s message) w f t :=
  not_fails_of_gives (runIn_log l s message w)

/-- A log line before the answer does not fail. -/
theorem not_fails_log_pure {c : α} {l : Logger} {s : Severity} {message : String} :
    ¬ Fails (do log l s message; return c) w f t := by
  rw [fails_bind_iff]
  exact not_or.mpr ⟨not_fails_log, fun ⟨_, _, _, h⟩ => not_fails_pure h⟩

end

/-! ### Steps of commands -/

section

variable {w w' : World} {path : String} {contents : Bytes} {f : Failure} {t : Tree}

theorem not_fails_print {line : String} : ¬ Fails (Host.print line) w f t :=
  not_fails_lift

theorem fails_readFile_iff : Fails (readFile path) w f t ↔
    ∃ e, w.files.read (Path.tidy path) = .error e ∧ f = .file e ∧ w.files = t := by
  have hrun : runIn (readFile path) w =
      ((w.files.read (Path.tidy path)).mapError Failure.file, w) := rfl
  unfold Fails
  rw [hrun]
  cases w.files.read (Path.tidy path) with
  | error e => simp [Except.mapError, eq_comm]
  | ok data => simp [Except.mapError]

/-- The contents are not stored beside the path, for this reason and with these files after it. -/
def FailsBeside (t : Tree) (path suffix : String) (contents : Bytes) (f : Failure) (t' : Tree) :
    Prop :=
  (Path.withSuffix? path suffix = none ∧ f = .unnamed (Path.tidy path) ∧ t' = t) ∨
    ∃ target e, Path.withSuffix? path suffix = some target ∧
      t.store target contents = (.error e, t') ∧ f = .file e

/-- Either nothing happens, or a front part of the contents gets into the file. -/
theorem FailsBeside.cases {t' : Tree} {suffix : String}
    (h : FailsBeside t path suffix contents f t') :
    t' = t ∨ ∃ target kept, Path.withSuffix? path suffix = some target ∧
      t.write target (contents.take kept) = .ok t' := by
  rcases h with ⟨-, -, rfl⟩ | ⟨target, e, htarget, hstore, -⟩
  · exact .inl rfl
  · rcases Tree.store_cases hstore with ⟨⟨⟩, -⟩ | ⟨-, -, -, rfl⟩ | ⟨-, kept, -, hwrite⟩
    · exact .inl rfl
    · exact .inr ⟨target, kept, htarget, hwrite⟩

theorem fails_writeBeside_iff {l : Logger} {suffix what : String} :
    Fails (writeBeside l path suffix what contents) w f t ↔
      FailsBeside w.files path suffix contents f t := by
  unfold writeBeside FailsBeside
  split
  · next target htarget =>
    have hanswers : ¬ Fails (Host.write target contents) w f t := not_fails_lift
    rw [fails_bind_iff, or_iff_right hanswers]
    simp only [gives_write_iff, fails_bind_iff, fails_liftM_iff, not_fails_log, and_false,
      exists_false, or_false]
    rcases hstore : w.files.store target contents with ⟨e | u, files⟩
    · simp [Except.mapError, htarget, hstore, eq_comm, and_comm]
    · simp [Except.mapError, htarget, hstore]
  · next hnone =>
    have hnone : Path.withSuffix? path suffix = none :=
      Option.eq_none_iff_forall_ne_some.mpr hnone
    rw [fails_throw_iff]
    simp [hnone, eq_comm]

/-- A write among other steps fails, or they fail behind it. -/
theorem of_fails_writeBeside {α : Type} {l : Logger} {suffix what : String}
    {next : Unit → ExceptT Failure (StateM World) α}
    (h : Fails (writeBeside l path suffix what contents >>= next) w f t) :
    FailsBeside w.files path suffix contents f t ∨
      ∃ w₁, Path.WritesBeside w.files path suffix contents w₁.files ∧ Fails (next ()) w₁ f t := by
  rcases fails_bind_iff.mp h with hfails | ⟨_, w₁, hwritten, hnext⟩
  · exact .inl (fails_writeBeside_iff.mp hfails)
  · exact .inr ⟨w₁, (leaves_writeBeside_iff l what).mp ⟨w₁, hwritten, rfl⟩, hnext⟩

end

/-! ### Commands that do not succeed -/

section

variable {l : Logger} {name : String} {command : ExceptT Failure (StateM World) Result}
  {w w' : World} {f : Failure}

/-- A command ends in failure if it says so itself, or for a foreseen reason that is then logged. -/
theorem attempt_eq_failure_iff : (attempt l name command).run w = (.failure, w') ↔
    Gives command w .failure w' ∨ ∃ f w₁, runIn command w = (.error f, w₁) ∧ f.isForeseen = true ∧
      w₁.logged l .error s!"{name} failed: {f.message}" = w' := by
  rw [run_attempt, Gives]
  rcases runIn command w with ⟨f | result, w₁⟩
  · simp only
    split_ifs with h
    · change (Result.failure, _) = (Result.failure, w') ↔ _
      simp [h]
    · refine ⟨fun haborted => ?_, ?_⟩
      · cases haborted
      · rintro (⟨⟨⟩⟩ | ⟨f, w₁, ⟨⟩, hforeseen, -⟩)
        exact absurd hforeseen h
  · change (result, w₁) = (.failure, w') ↔ _
    simp

theorem Fails.runIn_eq {t : Tree} (h : Fails command w f t) :
    ∃ w₁, runIn command w = (.error f, w₁) ∧ w₁.files = t :=
  ⟨_, Prod.ext h.1 rfl, h.2⟩

/-- A foreseen failure leaves the files as the steps left them. -/
theorem Fails.attempt_eq_failure {t : Tree} (h : Fails command w f t) (hf : f.isForeseen = true) :
    ∃ w', (attempt l name command).run w = (.failure, w') ∧ w'.files = t := by
  obtain ⟨w₁, hrun, rfl⟩ := h.runIn_eq
  exact ⟨_, attempt_eq_failure_iff.mpr (.inr ⟨f, w₁, hrun, hf, rfl⟩), World.files_logged ..⟩

/-- A command aborts the run for a reason that is not foreseen. -/
theorem attempt_eq_aborted_iff : (attempt l name command).run w = (.aborted f, w') ↔
    Gives command w (.aborted f) w' ∨ runIn command w = (.error f, w') ∧ f.isForeseen = false := by
  rw [run_attempt, Gives]
  rcases runIn command w with ⟨f' | result, w₁⟩
  · simp only
    split_ifs with h
    · refine ⟨fun hfailed => ?_, ?_⟩
      · cases hfailed
      · rintro (⟨⟨⟩⟩ | ⟨⟨⟩, hunforeseen⟩)
        rw [h] at hunforeseen
        cases hunforeseen
    · change (Result.aborted f', w₁) = (.aborted f, w') ↔ _
      simp only [Prod.mk.injEq, Result.aborted.injEq, reduceCtorEq, false_and, false_or,
        Except.error.injEq]
      refine ⟨?_, And.left⟩
      rintro ⟨rfl, rfl⟩
      exact ⟨⟨rfl, rfl⟩, Bool.eq_false_iff.mpr h⟩
  · change (result, w₁) = (.aborted f, w') ↔ _
    simp

end

end Rs256Cose.Commands
