import Mathlib
import Rs256Cose.Proofs.Commands.Verify

/-!
# One key in two forms

Verifying a file prints a `verdict` that depends on what the files hold (`run_verifyFile`), and on
the file of the trusted key only through the key that is loaded from it (`verdict_congr`). A public
key is loaded back from its PEM and from its DER, so it does not matter which of them is named
(`Program.publicKey_forms_agree`).
-/

namespace Rs256Cose

open Files Keys Log

/-- The world after entries were logged and lines were printed. -/
def World.telling (w : World) (entries : List (Severity × String)) (lines : List String) : World :=
  { w with entries := w.entries ++ entries, printed := w.printed ++ lines }

theorem World.telling_nil (w : World) : w.telling [] [] = w := by
  unfold telling
  rw [List.append_nil, List.append_nil]

/-- What is logged does not depend on the world that it is logged in. -/
theorem World.logged_eq_telling (w : World) (l : Logger) (s : Severity) (message : String) :
    w.logged l s message = w.telling [(s, message)] (l.printedLines s message) := rfl

theorem World.printed_eq_telling (w : World) (line : String) :
    { w with printed := w.printed ++ [line] } = w.telling [] [line] := by
  unfold telling
  rw [List.append_nil]

/-- No file is named by the empty path: its tidy form is the current directory. -/
theorem Files.Tree.read_tidy_empty_ne_ok (t : Tree) (data : Bytes) :
    t.read (Path.tidy "") ≠ .ok data := by
  intro h
  obtain ⟨place, hplace, hnode⟩ := read_eq_ok_iff.mp h
  obtain ⟨-, -, hwalk⟩ := locate_eq_ok_iff.mp hplace
  obtain ⟨hdirectory, hend⟩ := walk_cons_eq_ok_iff.mp hwalk
  obtain rfl : t.current = place := Except.ok.inj hend
  have hcurrent : t.node? t.current = some .directory := hdirectory
  rw [hcurrent] at hnode
  cases hnode

namespace Commands

/-! ### Steps that only look -/

section

variable {α β : Type} {w : World}

/-- The step leaves the world as it is, and this is what comes of it. -/
def Finds (step : ExceptT Failure (StateM World) α) (w : World) (x : Except Failure α) : Prop :=
  runIn step w = (x, w)

theorem finds_pure (a : α) : Finds (pure a) w (.ok a) := rfl

theorem finds_liftM (x : Except Failure α) : Finds (liftM x) w x := rfl

theorem finds_readFile (path : String) :
    Finds (readFile path) w ((w.files.read (Path.tidy path)).mapError Failure.file) := rfl

/-- What follows a step that only looks starts from the same world. -/
theorem Finds.runIn_bind {step : ExceptT Failure (StateM World) α} {x : Except Failure α}
    {next : α → ExceptT Failure (StateM World) β} :
    Finds step w x → runIn (step >>= next) w = match x with
      | .ok a => runIn (next a) w
      | .error e => (.error e, w) := by
  intro h
  rw [Commands.runIn_bind, show runIn step w = (x, w) from h]
  cases x with
  | error e => rfl
  | ok a => rfl

theorem Finds.bind {step : ExceptT Failure (StateM World) α} {x : Except Failure α}
    {next : α → ExceptT Failure (StateM World) β} {f : α → Except Failure β}
    (h : Finds step w x) (hnext : ∀ a, Finds (next a) w (f a)) :
    Finds (step >>= next) w (x >>= f) := by
  rw [Finds, h.runIn_bind]
  cases x with
  | error e => rfl
  | ok a => exact hnext a

theorem Finds.map {step : ExceptT Failure (StateM World) α} {x : Except Failure α} (g : α → β)
    (h : Finds step w x) : Finds (g <$> step) w (g <$> x) := by
  rw [← bind_pure_comp, ← bind_pure_comp]
  exact h.bind fun a => finds_pure (g a)

end

/-! ### The verdict -/

section

variable [KeyLibrary]

/-- The key in the file at a path, in its one DER form, or why there is none. -/
def trustedKeyIn (t : Tree) (path : String) : Except Failure Bytes := do
  let file ← (t.read (Path.tidy path)).mapError Failure.file
  let key ← (loadPublicKey file).mapError Failure.ofKeyFileError
  (exportPublicKey key).mapError Failure.key

/-- The trusted key that an option leads to, if it names one. -/
def trustedIn (t : Tree) : Option String → Except Failure (Option Bytes)
  | none => .ok none
  | some path => if path = "" then .ok none else some <$> trustedKeyIn t path

/-- What is found out about the message in a file, or why nothing is. -/
def verdict (t : Tree) (o : VerifyOptions) : Except Failure Verified := do
  let data ← (t.read (Path.tidy o.input)).mapError Failure.file
  let trusted ← trustedIn t o.trusted
  (verify data trusted).mapError Failure.ofVerifyError

variable {w : World} {t t' : Tree}

theorem finds_readTrustedKey (path : String) :
    Finds (readTrustedKey path) w (trustedKeyIn w.files path) :=
  (finds_readFile path).bind fun _ => (finds_liftM _).bind fun _ => finds_liftM _

theorem finds_readTrusted (pub : Option String) :
    Finds (readTrusted pub) w (trustedIn w.files pub) := by
  cases pub with
  | none => exact finds_pure none
  | some path =>
    rw [readTrusted, trustedIn]
    split_ifs
    · exact finds_pure none
    · exact (finds_readTrustedKey path).map some

/-- Verifying a file prints the verdict; a foreseen failure is logged. -/
theorem run_verifyFile (l : Logger) (o : VerifyOptions) (w : World) :
    (verifyFile l o : StateM World Result).run w = match verdict w.files o with
      | .ok v => (.success, { w with printed := w.printed ++ [verifiedText v] })
      | .error f =>
        if f.isForeseen then (.failure, w.logged l .error s!"verify failed: {f.message}")
        else (.aborted f, w) := by
  have hfinds := (finds_readFile (w := w) o.input).bind fun data =>
    (finds_readTrusted o.trusted).bind fun trusted =>
      finds_liftM ((verify data trusted).mapError Failure.ofVerifyError)
  rw [verifyFile_eq, run_attempt]
  -- all steps up to the verdict come first, whatever is done with it
  simp only [← bind_assoc]
  rw [runIn_bind, hfinds.runIn_bind, ← verdict]
  cases verdict w.files o with
  | error f => rfl
  | ok v => rfl

/-- The verdict alone decides how the command ends and what it prints. -/
theorem exists_run_verifyFile (l : Logger) (x : Except Failure Verified) :
    ∃ result entries lines, ∀ (w : World) (o : VerifyOptions), verdict w.files o = x →
      (verifyFile l o : StateM World Result).run w = (result, w.telling entries lines) := by
  cases x with
  | ok v =>
    refine ⟨.success, [], [verifiedText v], fun w o hverdict => ?_⟩
    rw [run_verifyFile, hverdict, ← World.printed_eq_telling]
  | error f =>
    let message := s!"verify failed: {f.message}"
    by_cases hforeseen : f.isForeseen = true
    · refine ⟨.failure, [(.error, message)], l.printedLines .error message, fun w o hverdict => ?_⟩
      rw [run_verifyFile, hverdict]
      simp only [if_pos hforeseen, World.logged_eq_telling, message]
    · refine ⟨.aborted f, [], [], fun w o hverdict => ?_⟩
      rw [run_verifyFile, hverdict]
      simp only [if_neg hforeseen, World.telling_nil]

/-! ### The file of the key -/

variable {file pub pub' : String} {text text' : Bytes} {key : Rsa.PublicKey}

theorem trustedIn_of_read (hread : t.read (Path.tidy pub) = .ok text)
    (hload : loadPublicKey text = .ok key) :
    trustedIn t (some pub) = some <$> (exportPublicKey key).mapError Failure.key := by
  have hne : pub ≠ "" := by
    rintro rfl
    exact t.read_tidy_empty_ne_ok text hread
  simp only [trustedIn, if_neg hne, trustedKeyIn, hread, hload, Except.mapError, bind, Except.bind]

/-- Of the file of a trusted key only the key counts. -/
theorem verdict_congr (hfile : t.read (Path.tidy file) = t'.read (Path.tidy file))
    (hread : t.read (Path.tidy pub) = .ok text) (hread' : t'.read (Path.tidy pub') = .ok text')
    (hload : loadPublicKey text = .ok key) (hload' : loadPublicKey text' = .ok key) :
    verdict t ⟨file, some pub⟩ = verdict t' ⟨file, some pub'⟩ := by
  simp only [verdict, hfile, trustedIn_of_read hread hload, trustedIn_of_read hread' hload']

end

end Commands

namespace Program

open Commands CommandLine Text

section

variable [KeyLibrary]

/-- Two runs that verify the same contents under one key end in the same way and print the same. -/
theorem exists_run_verify {start start' : Start} {w w' : World} {o o' : VerifyOptions}
    (hsettings : start.settings = start'.settings)
    (hwords : Invocation.read start.settings start.words = .ok (.verify o))
    (hwords' : Invocation.read start'.settings start'.words = .ok (.verify o'))
    (hverdict : verdict w.files o = verdict w'.files o') : ∃ ending entries lines,
      (run start : StateM World Ending).run w = (ending, w.telling entries lines) ∧
      (run start' : StateM World Ending).run w' = (ending, w'.telling entries lines) := by
  rw [run_eq, run_eq, hwords, hwords', hsettings]
  rcases Logger.fresh.setUp start'.settings.logLevel with ⟨error | ⟨⟨⟩⟩, logger⟩
  · exact ⟨.unlogged error, [], [], by rw [World.telling_nil], by rw [World.telling_nil]⟩
  · obtain ⟨result, entries, lines, hrun⟩ := exists_run_verifyFile logger (verdict w.files o)
    have hleft := hrun w o rfl
    have hright := hrun w' o' hverdict.symm
    refine ⟨.finished result, entries, lines, ?_, ?_⟩
    · simp only [runCommand, hleft]
    · simp only [runCommand, hright]

/-- A proper public key of the required size is loaded back from its PEM, with white space before it
and any text behind, and from its DER, and is exported from there to the same bytes. So verification
under a trusted key does not depend on the form that the key has on file. -/
theorem publicKey_forms_agree {key : Rsa.PublicKey} (hproper : key.IsProper)
    (hsize : key.size = 2048) {before : Bytes} (hbefore : ∀ b ∈ before, Pem.isBlank b = true)
    (rest : Bytes) :
    loadPublicKey (before ++ (encodePublicPem key ++ rest)) = .ok key ∧
    (∀ der, exportPublicKey key = .ok der → loadPublicKey der = .ok key ∧
      ∀ data ∈ [der, before ++ (encodePublicPem key ++ rest)], ∀ reload,
        loadPublicKey data = .ok reload → exportPublicKey reload = .ok der) ∧
    ∀ (start start' : Start) (w w' : World) (file pub pub' : String),
      start.settings = start'.settings →
      Invocation.read start.settings start.words = .ok (.verify ⟨file, some pub⟩) →
      Invocation.read start'.settings start'.words = .ok (.verify ⟨file, some pub'⟩) →
      w.files.read (Path.tidy file) = w'.files.read (Path.tidy file) →
      w.files.read (Path.tidy pub) = .ok (before ++ (encodePublicPem key ++ rest)) →
      w'.files.read (Path.tidy pub') = .ok (encodePublicInfo key) →
      ∃ ending entries lines,
        (run start : StateM World Ending).run w = (ending, w.telling entries lines) ∧
        (run start' : StateM World Ending).run w' = (ending, w'.telling entries lines) := by
  have hpem := loadPublicKey_encodePublicPem hproper hsize hbefore rest
  refine ⟨hpem, ?_, ?_⟩
  · intro der hexport
    have hder := loadPublicKey_of_exportPublicKey hproper hsize hexport
    refine ⟨hder, ?_⟩
    intro data hdata reload hreload
    rcases List.mem_pair.mp hdata with rfl | rfl
    · obtain rfl : key = reload := Except.ok.inj (hder.symm.trans hreload)
      exact hexport
    · obtain rfl : key = reload := Except.ok.inj (hpem.symm.trans hreload)
      exact hexport
  · intro start start' w w' file pub pub' hsettings hwords hwords' hfile hpub hpub'
    exact exists_run_verify hsettings hwords hwords'
      (verdict_congr hfile hpub hpub' hpem (loadPublicKey_encodePublicInfo hproper hsize))

end

/-- A signed message beside the PEM of its key, between white space and other text, and the DER. -/
def bothFormsWorld : World :=
  .ofFiles <| (signedWorld.files.put ["work", "key.pub"] <|
    .file ([0x0a, 0x20] ++ (encodePublicPem Rsa.specimen.toPublicKey ++ [0x21]))).put
    ["work", "key.der"] <| .file (encodePublicInfo Rsa.specimen.toPublicKey)

theorem publicKey_forms_agree_specimen :
    exportPublicKey Rsa.specimen.toPublicKey = .ok (encodePublicInfo Rsa.specimen.toPublicKey) ∧
    loadPublicKey ([0x0a, 0x20] ++ (encodePublicPem Rsa.specimen.toPublicKey ++ [0x21])) =
      .ok Rsa.specimen.toPublicKey ∧
    ∃ ending entries lines,
      (run ⟨[], "", ["verify", "m.cosesign1", "--pub", "key.pub"]⟩ : StateM World Ending).run
        bothFormsWorld = (ending, bothFormsWorld.telling entries lines) ∧
      (run ⟨[], "", ["verify", "m.cosesign1", "--pub", "key.der"]⟩ : StateM World Ending).run
        bothFormsWorld = (ending, bothFormsWorld.telling entries lines) := by
  have hreads : ∀ pub, pub = "key.pub" ∨ pub = "key.der" →
      Invocation.read (Start.settings ⟨[], "", ["verify", "m.cosesign1", "--pub", pub]⟩)
        ["verify", "m.cosesign1", "--pub", pub] = .ok (.verify ⟨"m.cosesign1", some pub⟩) := by
    intro pub hpub
    rw [settings_unset]
    rcases hpub with rfl | rfl
    · exact (Invocation.read_eq_ok_iff .verify).mpr ⟨_, _, rfl, rfl, rfl, rfl⟩
    · exact (Invocation.read_eq_ok_iff .verify).mpr ⟨_, _, rfl, rfl, rfl, rfl⟩
  have hblank : ∀ b ∈ ([0x0a, 0x20] : Bytes), Pem.isBlank b = true :=
    List.forall_mem_cons.mpr ⟨by decide, List.forall_mem_singleton.mpr (by decide)⟩
  obtain ⟨hload, -, hruns⟩ :=
    publicKey_forms_agree Rsa.isProper_specimen size_specimen hblank [0x21]
  have hsettings : ∀ words words' : List String,
      Start.settings ⟨[], "", words⟩ = Start.settings ⟨[], "", words'⟩ := fun _ _ => rfl
  exact ⟨exportPublicKey_specimen, hload, hruns _ _ bothFormsWorld bothFormsWorld _ _ _
    (hsettings _ _) (hreads _ (.inl rfl)) (hreads _ (.inr rfl)) rfl rfl rfl⟩

end Program

end Rs256Cose
