import Mathlib
import Rs256Cose.Commands.Result
import Rs256Cose.Proofs.Files.Path

/-!
# Runs of commands

`Gives step w a w'`: run in the world `w` the step gives `a` and leaves the world `w'`. A chain of
steps gives an answer if and only if each of its steps gives one (`gives_bind_iff`); the lemmas on
single steps say what each needs and leaves. A command succeeds if its steps give success
(`attempt_eq_success_iff`). `Leaves step w a t` says of the world after the step only that its files
are `t`, which leaves the log out of account.
-/

namespace Rs256Cose

open Log

theorem World.files_write (w : World) (path : String) (contents : Bytes) :
    (w.write path contents).2.files = (w.files.store path contents).2 := rfl

/-! ### Log lines -/

/-- The lines that a logger prints for one that it is given. -/
def Log.Logger.printedLines (l : Logger) (s : Severity) (message : String) : List String :=
  if l.admits s then List.replicate l.handlers (line "T" s message) else []

/-- The world after a line was given to a logger. -/
def World.logged (w : World) (l : Logger) (s : Severity) (message : String) : World :=
  { w with
    entries := w.entries ++ [(s, message)]
    printed := w.printed ++ l.printedLines s message }

@[simp] theorem World.files_logged (w : World) (l : Logger) (s : Severity) (message : String) :
    (w.logged l s message).files = w.files := rfl

namespace Commands

open Files

/-- What a step answers in a world, and the world after it. -/
def runIn {α : Type} (step : ExceptT Failure (StateM World) α) (w : World) :
    Except Failure α × World :=
  step.run.run w

/-- Run in the first world, the step gives this answer and leaves the second world. -/
def Gives {α : Type} (step : ExceptT Failure (StateM World) α) (w : World) (a : α) (w' : World) :
    Prop :=
  runIn step w = (.ok a, w')

section

variable {α β : Type} {w w' : World} {a : α} {b : β}

theorem runIn_bind (step : ExceptT Failure (StateM World) α)
    (next : α → ExceptT Failure (StateM World) β) (w : World) :
    runIn (step >>= next) w = match runIn step w with
      | (.ok a, w₁) => runIn (next a) w₁
      | (.error failure, w₁) => (.error failure, w₁) := by
  change (ExceptT.bindCont next (runIn step w).1).run (runIn step w).2 = _
  rcases runIn step w with ⟨failure | a, w₁⟩
  · rfl
  · rfl

theorem gives_bind_iff {step : ExceptT Failure (StateM World) α}
    {next : α → ExceptT Failure (StateM World) β} :
    Gives (step >>= next) w b w' ↔ ∃ a w₁, Gives step w a w₁ ∧ Gives (next a) w₁ b w' := by
  unfold Gives
  rw [runIn_bind]
  rcases runIn step w with ⟨failure | a, w₁⟩
  · simp
  · simp

theorem gives_pure_iff {c : α} : Gives (pure c) w a w' ↔ c = a ∧ w = w' := by
  have hrun : runIn (pure c) w = (.ok c, w) := rfl
  simp [Gives, hrun]

theorem gives_liftM_iff {x : Except Failure α} :
    Gives (liftM x) w a w' ↔ x = .ok a ∧ w = w' := by
  have hrun : runIn (liftM x) w = (x, w) := rfl
  simp [Gives, hrun]

theorem gives_lift_iff {x : StateM World α} :
    Gives (ExceptT.lift x) w a w' ↔ (x.run w).1 = a ∧ (x.run w).2 = w' := by
  have hrun : runIn (ExceptT.lift x) w = (.ok (x.run w).1, (x.run w).2) := rfl
  simp [Gives, hrun]

theorem not_gives_throw {failure : Failure} : ¬ Gives (throw failure) w a w' := by
  intro h
  cases h

theorem gives_map_iff {step : ExceptT Failure (StateM World) α} {f : α → β} :
    Gives (f <$> step) w b w' ↔ ∃ a, Gives step w a w' ∧ f a = b := by
  rw [← bind_pure_comp, gives_bind_iff]
  refine exists_congr fun a => ?_
  simp only [gives_pure_iff]
  refine ⟨?_, ?_⟩
  · rintro ⟨w₁, hstep, hf, rfl⟩
    exact ⟨hstep, hf⟩
  · rintro ⟨hstep, hf⟩
    exact ⟨w', hstep, hf, rfl⟩

/-- Run in this world, the step gives this answer and leaves these files. -/
def Leaves (step : ExceptT Failure (StateM World) α) (w : World) (a : α) (t : Tree) : Prop :=
  ∃ w', Gives step w a w' ∧ w'.files = t

variable {t : Tree}

theorem leaves_bind_iff {step : ExceptT Failure (StateM World) α}
    {next : α → ExceptT Failure (StateM World) β} :
    Leaves (step >>= next) w b t ↔ ∃ a w₁, Gives step w a w₁ ∧ Leaves (next a) w₁ b t := by
  unfold Leaves
  simp only [gives_bind_iff]
  refine ⟨?_, ?_⟩
  · rintro ⟨w', ⟨a, w₁, hstep, hnext⟩, hfiles⟩
    exact ⟨a, w₁, hstep, w', hnext, hfiles⟩
  · rintro ⟨a, w₁, hstep, w', hnext, hfiles⟩
    exact ⟨w', ⟨a, w₁, hstep, hnext⟩, hfiles⟩

theorem leaves_pure_iff {c : α} : Leaves (pure c) w a t ↔ c = a ∧ w.files = t := by
  unfold Leaves
  simp only [gives_pure_iff]
  refine ⟨?_, ?_⟩
  · rintro ⟨w', ⟨rfl, rfl⟩, hfiles⟩
    exact ⟨rfl, hfiles⟩
  · rintro ⟨rfl, hfiles⟩
    exact ⟨w, ⟨rfl, rfl⟩, hfiles⟩

/-- Whatever the step answers, the answer and the world after it are of this kind. -/
def Yields (kind : α → World → Prop) (step : ExceptT Failure (StateM World) α) : Prop :=
  ∀ w a w', Gives step w a w' → kind a w'

theorem yields_pure {kind : α → World → Prop} (h : ∀ w, kind a w) : Yields kind (pure a) := by
  intro w a' w' hgives
  obtain ⟨rfl, rfl⟩ := gives_pure_iff.mp hgives
  exact h w

/-- The last step of a chain answers for all of it. -/
theorem yields_bind {kind : β → World → Prop} {step : ExceptT Failure (StateM World) α}
    {next : α → ExceptT Failure (StateM World) β} (h : ∀ a, Yields kind (next a)) :
    Yields kind (step >>= next) := by
  intro w b w' hgives
  obtain ⟨a, w₁, -, hnext⟩ := gives_bind_iff.mp hgives
  exact h a w₁ b w' hnext

end

/-! ### What becomes of a failure -/

theorem run_emit (handlers : Nat) (line : String) (w : World) :
    (emit handlers line : StateM World Unit).run w =
      ((), { w with printed := w.printed ++ List.replicate handlers line }) := by
  induction handlers generalizing w with
  | zero =>
    rw [emit, List.replicate_zero, List.append_nil]
    rfl
  | succ handlers ih =>
    change (emit handlers line : StateM World Unit).run
      { w with printed := w.printed ++ [line] } = _
    rw [ih]
    simp [List.replicate_succ]

theorem run_log (l : Logger) (s : Severity) (message : String) (w : World) :
    (log l s message : StateM World Unit).run w = ((), w.logged l s message) := by
  let noted : World := { w with entries := w.entries ++ [(s, message)] }
  unfold log World.logged Logger.printedLines
  change StateT.run (if l.admits s = true then _ else _) noted = _
  split_ifs with h
  · exact run_emit l.handlers (line "T" s message) noted
  · rw [List.append_nil]
    rfl

/-- What a command ends in by the answer of its steps. -/
def Result.ofSteps : Except Failure Result → Result
  | .ok result => result
  | .error f => if f.isForeseen then .failure else .aborted f

/-- A foreseen failure is logged, any other aborts the run. -/
theorem run_attempt (l : Logger) (name : String) (command : ExceptT Failure (StateM World) Result)
    (w : World) : (attempt l name command).run w = match runIn command w with
      | (.ok result, w₁) => (result, w₁)
      | (.error f, w₁) =>
        if f.isForeseen then (.failure, w₁.logged l .error s!"{name} failed: {f.message}")
        else (.aborted f, w₁) := by
  unfold attempt
  rw [StateT.run_bind]
  change Bind.bind (m := Id) (runIn command w) _ = _
  rcases runIn command w with ⟨f | result, w₁⟩
  · change StateT.run (ite _ _ _) w₁ = ite _ _ _
    split_ifs
    · rw [StateT.run_bind, run_log]
      rfl
    · rfl
  · rfl

theorem attempt_fst (l : Logger) (name : String)
    (command : ExceptT Failure (StateM World) Result) (w : World) :
    ((attempt l name command).run w).1 = .ofSteps (runIn command w).1 := by
  rw [run_attempt]
  rcases runIn command w with ⟨f | result, w₁⟩
  · simp only [Result.ofSteps]
    split_ifs
    · rfl
    · rfl
  · rfl

/-- A failure changes no file when it is dealt with. -/
theorem files_attempt (l : Logger) (name : String)
    (command : ExceptT Failure (StateM World) Result) (w : World) :
    ((attempt l name command).run w).2.files = (runIn command w).2.files := by
  rw [run_attempt]
  rcases runIn command w with ⟨f | result, w₁⟩
  · simp only
    split_ifs
    · exact World.files_logged ..
    · rfl
  · rfl

/-- Only a command that ran to success ends in success: a failure ends otherwise. -/
theorem attempt_eq_success_iff {l : Logger} {name : String}
    {command : ExceptT Failure (StateM World) Result} {w w' : World} :
    (attempt l name command).run w = (.success, w') ↔ Gives command w .success w' := by
  rw [run_attempt, Gives]
  rcases runIn command w with ⟨f | result, w₁⟩
  · simp only
    split_ifs
    · exact ⟨nofun, nofun⟩
    · exact ⟨nofun, nofun⟩
  · change (result, w₁) = (.success, w') ↔ _
    simp

/-! ### Steps on the machine -/

section

variable {w w' : World} {path : String} {contents : Bytes} {answer : Except FileError Bytes}
  {changed : Except FileError Unit} {u : Unit}

theorem gives_read_iff : Gives (Host.read path) w answer w' ↔
    w.files.read path = answer ∧ w = w' :=
  gives_lift_iff

theorem gives_write_iff : Gives (Host.write path contents) w changed w' ↔
    (w.files.store path contents).1 = changed ∧
      { w with files := (w.files.store path contents).2 } = w' :=
  gives_lift_iff

theorem gives_print_iff {line : String} : Gives (Host.print line) w u w' ↔
    { w with printed := w.printed ++ [line] } = w' :=
  gives_lift_iff.trans (and_iff_right rfl)

theorem gives_stamp_iff {stamp : String} : Gives Host.stamp w stamp w' ↔ "T" = stamp ∧ w = w' :=
  gives_lift_iff

theorem gives_emit_iff {handlers : Nat} {line : String} : Gives (emit handlers line) w u w' ↔
    { w with printed := w.printed ++ List.replicate handlers line } = w' := by
  induction handlers generalizing w with
  | zero =>
    rw [emit, gives_pure_iff]
    simp
  | succ handlers ih =>
    rw [emit, gives_bind_iff]
    simp only [gives_print_iff, ih]
    simp [List.replicate_succ]

theorem gives_note_iff {s : Severity} {message : String} : Gives (Host.note s message) w u w' ↔
    { w with entries := w.entries ++ [(s, message)] } = w' :=
  gives_lift_iff.trans (and_iff_right rfl)

theorem gives_log_iff {l : Logger} {s : Severity} {message : String} :
    Gives (log l s message) w u w' ↔ w.logged l s message = w' := by
  unfold log World.logged Logger.printedLines
  rw [gives_bind_iff]
  simp only [gives_note_iff, exists_eq_left', exists_const]
  split_ifs with h
  · rw [gives_bind_iff]
    simp only [gives_stamp_iff, gives_emit_iff]
    simp
  · rw [gives_pure_iff]
    simp

theorem runIn_log (l : Logger) (s : Severity) (message : String) (w : World) :
    runIn (log l s message) w = (.ok (), w.logged l s message) :=
  gives_log_iff.mpr rfl

/-- A log line before the answer leaves the files alone. -/
theorem leaves_log_pure_iff {α : Type} {a c : α} {l : Logger} {s : Severity} {message : String}
    {t : Tree} : Leaves (do log l s message; return c) w a t ↔ c = a ∧ w.files = t := by
  simp only [leaves_bind_iff, gives_log_iff, leaves_pure_iff]
  refine ⟨?_, ?_⟩
  · rintro ⟨_, _, rfl, hc, hfiles⟩
    rw [World.files_logged] at hfiles
    exact ⟨hc, hfiles⟩
  · rintro ⟨hc, hfiles⟩
    exact ⟨(), _, rfl, hc, (World.files_logged ..).trans hfiles⟩

/-! ### Steps of commands -/

theorem gives_readFile_iff {data : Bytes} : Gives (readFile path) w data w' ↔
    w.files.read (Path.tidy path) = .ok data ∧ w = w' := by
  unfold readFile
  simp only [gives_bind_iff, gives_read_iff, gives_liftM_iff, mapError_eq_ok_iff]
  refine ⟨?_, ?_⟩
  · rintro ⟨answer, w₁, ⟨hread, rfl⟩, hanswer, rfl⟩
    exact ⟨hread.trans hanswer, rfl⟩
  · rintro ⟨hread, rfl⟩
    exact ⟨_, w, ⟨hread, rfl⟩, rfl, rfl⟩

theorem gives_writeBeside_iff {l : Logger} {suffix what : String} :
    Gives (writeBeside l path suffix what contents) w u w' ↔
      ∃ target files, Path.withSuffix? path suffix = some target ∧
        w.files.store target contents = (.ok (), files) ∧
        World.logged { w with files } l .info s!"{what} written to: {target}" = w' := by
  unfold writeBeside
  split
  · next target htarget =>
    simp only [gives_bind_iff, gives_write_iff, gives_liftM_iff, gives_log_iff, mapError_eq_ok_iff]
    rcases hstore : w.files.store target contents with ⟨answer, files⟩
    refine ⟨?_, ?_⟩
    · rintro ⟨_, _, ⟨rfl, rfl⟩, u, _, ⟨rfl, rfl⟩, hlogged⟩
      exact ⟨target, files, htarget, hstore, hlogged⟩
    · rintro ⟨target', files', htarget', hstore', hlogged⟩
      obtain rfl : target = target' := Option.some.inj (htarget.symm.trans htarget')
      obtain ⟨rfl, rfl⟩ := Prod.mk.inj (hstore.symm.trans hstore')
      exact ⟨.ok (), { w with files }, ⟨rfl, rfl⟩, (), _, ⟨rfl, rfl⟩, hlogged⟩
  · next hnone =>
    refine ⟨fun h => absurd h not_gives_throw, ?_⟩
    rintro ⟨target, files, htarget, -⟩
    exact absurd htarget (hnone target)

theorem leaves_writeBeside_iff (l : Logger) {suffix : String} (what : String) {t : Tree} :
    Leaves (writeBeside l path suffix what contents) w u t ↔
      Path.WritesBeside w.files path suffix contents t := by
  unfold Leaves
  simp only [gives_writeBeside_iff]
  refine ⟨?_, ?_⟩
  · rintro ⟨w', ⟨target, files, htarget, hstore, rfl⟩, hfiles⟩
    obtain rfl : files = t := (World.files_logged _ l _ _).symm.trans hfiles
    exact ⟨target, htarget, hstore⟩
  · rintro ⟨target, htarget, hstore⟩
    exact ⟨_, ⟨target, t, htarget, hstore, rfl⟩, World.files_logged _ l _ _⟩

/-- Of a write among other steps only the files matter to those behind it. -/
theorem of_leaves_writeBeside {α : Type} {a : α} {l : Logger} {suffix what : String} {t : Tree}
    {next : Unit → ExceptT Failure (StateM World) α}
    (h : Leaves (writeBeside l path suffix what contents >>= next) w a t) :
    ∃ w₁, Path.WritesBeside w.files path suffix contents w₁.files ∧ Leaves (next ()) w₁ a t := by
  obtain ⟨_, w₁, hwritten, h⟩ := leaves_bind_iff.mp h
  exact ⟨w₁, (leaves_writeBeside_iff l what).mp ⟨w₁, hwritten, rfl⟩, h⟩

end

end Commands

end Rs256Cose
