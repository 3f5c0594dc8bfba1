import Mathlib
import Rs256Cose.Proofs.Commands.Stopping
import Rs256Cose.Proofs.Commands.Verify

/-!
# What commands leave alone

`Respects R step`: however the step ends, `R` holds between the world before it and the one after
it. For a preorder that lines do not disturb it is enough that every write of a command respects it,
and only signing writes (`respects_steps`). So looking at a message changes no file, and signing
changes nothing but the files beside the input that its format asks for (`sign_altersOnly`); and no
command takes back what was logged (`keepsEntries_steps`).

Trees have no links, so what is said of files here is said of file systems without links.
-/

namespace Rs256Cose

open Files Keys Log CommandLine

namespace Commands

/-- However the step ends, the relation holds between the world before it and after it. -/
def Respects {α : Type} (R : World → World → Prop) (step : ExceptT Failure (StateM World) α) :
    Prop :=
  ∀ w, R w (runIn step w).2

/-- A preorder on worlds for which lines do not matter, whether they are logged or printed. -/
class IgnoresLines (R : World → World → Prop) : Prop extends IsPreorder World R where
  logged : ∀ w l s message, R w (World.logged w l s message)
  printed : ∀ w line, R w { w with printed := w.printed ++ [line] }

/-- The relation holds between the files of two worlds. -/
def OnFiles (R : Tree → Tree → Prop) (w w' : World) : Prop := R w.files w'.files

instance (R : Tree → Tree → Prop) [IsPreorder Tree R] : IgnoresLines (OnFiles R) where
  refl w := refl_of R w.files
  trans _ _ _ h h' := trans_of R h h'
  logged w _ _ _ := refl_of R w.files
  printed w _ := refl_of R w.files

/-- All that was logged in the first world was logged in the second. -/
def KeepsEntries (w w' : World) : Prop := w.entries <+: w'.entries

instance : IgnoresLines KeepsEntries where
  refl _ := List.prefix_rfl
  trans _ _ _ h h' := List.IsPrefix.trans h h'
  logged _ _ _ _ := List.prefix_append _ _
  printed _ _ := List.prefix_rfl

section

variable {α β : Type} {R : World → World → Prop} {step : ExceptT Failure (StateM World) α}

theorem respects_write {path : String} {contents : Bytes}
    (h : ∀ w, R w (World.write w path contents).2) :
    Respects R (Host.write path contents : ExceptT Failure (StateM World) _) := h

variable [IgnoresLines R]

theorem respects_pure {a : α} : Respects R (pure a) := refl_of R

theorem respects_liftM {x : Except Failure α} : Respects R (liftM x) := refl_of R

theorem respects_bind {next : α → ExceptT Failure (StateM World) β} (hstep : Respects R step)
    (hnext : ∀ a, Respects R (next a)) : Respects R (step >>= next) := by
  intro w
  have h := hstep w
  rw [runIn_bind]
  rcases hrun : runIn step w with ⟨f | a, w₁⟩
  · rw [hrun] at h
    exact h
  · rw [hrun] at h
    exact trans_of R h (hnext a w₁)

theorem respects_print {line : String} :
    Respects R (Host.print line : ExceptT Failure (StateM World) Unit) :=
  fun w => IgnoresLines.printed w line

theorem respects_log {l : Logger} {s : Severity} {message : String} :
    Respects R (log l s message : ExceptT Failure (StateM World) Unit) := by
  intro w
  rw [runIn_log]
  exact IgnoresLines.logged w l s message

/-- A log line before the answer leaves the rest alone. -/
theorem respects_log_pure {a : α} {l : Logger} {s : Severity} {message : String} :
    Respects R (do log l s message; return a) :=
  respects_bind respects_log fun _ => respects_pure

theorem respects_loadSigningKey [KeyLibrary] {path : String} :
    Respects R (loadSigningKey path : ExceptT Failure (StateM World) _) := refl_of R

theorem respects_readFile {path : String} : Respects R (readFile path) := refl_of R

/-- A write beside a path respects what the write of the file there does, whatever becomes of it. -/
theorem respects_writeBeside {l : Logger} {path suffix what : String} {contents : Bytes}
    (h : ∀ target, Path.withSuffix? path suffix = some target →
      ∀ w, R w (World.write w target contents).2) :
    Respects R (writeBeside l path suffix what contents) := by
  unfold writeBeside
  split
  · next target htarget =>
    refine respects_bind (respects_write (h target htarget)) fun _ => ?_
    exact respects_bind respects_liftM fun _ => respects_log
  · exact refl_of R

/-- What its steps respect is respected by a command. -/
theorem Respects.attempt {command : ExceptT Failure (StateM World) Result}
    (h : Respects R command) (l : Logger) (name : String) (w : World) :
    R w ((Commands.attempt l name command).run w).2 := by
  have hcommand := h w
  rw [run_attempt]
  rcases hrun : runIn command w with ⟨f | result, w₁⟩
  · rw [hrun] at hcommand
    simp only
    split_ifs
    · exact trans_of R hcommand (IgnoresLines.logged ..)
    · exact hcommand
  · rw [hrun] at hcommand
    exact hcommand

end

/-! ### The parts of signing -/

/-- The suffixes of the files that signing writes beside its input. -/
def OutputFormat.suffixes : OutputFormat → List String
  | .cosesign1 => [".signerpubkeyhash", ".cosesign1"]
  | .raw => [".signerpubkeyhash", ".sig", ".pub"]

/-- The paths that signing writes to. -/
def IsSidecar (o : SignOptions) (path : String) : Prop :=
  ∃ suffix ∈ o.format.suffixes, Path.withSuffix? o.input suffix = some path

/-- The relation holds across every write that signing may make. -/
def AllowsSidecars (R : World → World → Prop) (o : SignOptions) : Prop :=
  ∀ path, IsSidecar o path → ∀ contents w, R w (World.write w path contents).2

section

variable {R : World → World → Prop} [IgnoresLines R] {o : SignOptions} {key : Rsa.PrivateKey}
  {data : Bytes} {l : Logger}

theorem respects_writeSidecar {suffix what : String} {contents : Bytes} (hR : AllowsSidecars R o)
    (h : suffix ∈ o.format.suffixes) :
    Respects R (writeBeside l o.input suffix what contents) :=
  respects_writeBeside fun target htarget => hR target ⟨suffix, h, htarget⟩ contents

theorem respects_signMessage {embedKey : Bool} :
    Respects R (signMessage l key embedKey data) := by
  unfold signMessage
  refine respects_bind respects_liftM fun _ => respects_bind respects_liftM fun _ => ?_
  refine respects_bind respects_liftM fun _ => respects_bind respects_log fun _ => ?_
  exact respects_bind respects_liftM fun _ => respects_log_pure

variable [KeyLibrary]

theorem respects_signAsMessage (hR : AllowsSidecars R o) (h : o.format = .cosesign1) :
    Respects R (signAsMessage l o key data) := by
  have hsuffix : ".cosesign1" ∈ o.format.suffixes := by rw [h]; decide
  unfold signAsMessage
  refine respects_bind respects_signMessage fun _ => ?_
  refine respects_bind (respects_writeSidecar hR hsuffix) fun _ => ?_
  split_ifs
  · exact respects_bind respects_liftM fun _ => respects_log_pure
  · exact respects_pure

theorem respects_signRaw (hR : AllowsSidecars R o) (h : o.format = .raw) :
    Respects R (signRaw l o key data) := by
  have hsignature : ".sig" ∈ o.format.suffixes := by rw [h]; decide
  have hkey : ".pub" ∈ o.format.suffixes := by rw [h]; decide
  unfold signRaw
  refine respects_bind (respects_writeSidecar hR hsignature) fun _ => ?_
  refine respects_bind (respects_writeSidecar hR hkey) fun _ => ?_
  split_ifs
  · refine respects_bind respects_liftM fun _ => respects_bind respects_liftM fun _ => ?_
    split_ifs
    · exact respects_log_pure
    · exact respects_log_pure
  · exact respects_pure

theorem respects_signSteps (hR : AllowsSidecars R o) : Respects R (signSteps l o) := by
  have hhash : ".signerpubkeyhash" ∈ o.format.suffixes := by cases o.format <;> decide
  unfold signSteps
  refine respects_bind respects_loadSigningKey fun _ => respects_bind respects_liftM fun key => ?_
  refine respects_bind respects_log fun _ => ?_
  refine respects_bind (respects_writeSidecar hR hhash) fun _ => ?_
  refine respects_bind respects_readFile fun data => ?_
  cases hformat : o.format with
  | cosesign1 => exact respects_signAsMessage hR hformat
  | raw => exact respects_signRaw hR hformat

theorem respects_readTrustedKey {path : String} : Respects R (readTrustedKey path) :=
  respects_bind respects_readFile fun _ => respects_bind respects_liftM fun _ => respects_liftM

theorem respects_readTrusted (pub : Option String) : Respects R (readTrusted pub) := by
  cases pub with
  | none => exact respects_pure
  | some path =>
    rw [readTrusted]
    split_ifs
    · exact respects_pure
    · rw [← bind_pure_comp]
      exact respects_bind respects_readTrustedKey fun _ => respects_pure

end

/-! ### The commands -/

section

variable [KeyLibrary]

/-- The steps of a command, before a failure among them is dealt with. -/
def steps (l : Logger) : Invocation → ExceptT Failure (StateM World) Result
  | .sign o => signSteps l o
  | .verify o => do
    let data ← readFile o.input
    let trusted ← readTrusted o.trusted
    let verified ← (verify data trusted).mapError Failure.ofVerifyError
    Host.print (verifiedText verified)
    return .success
  | .inspect o => do
    let data ← readFile o.input
    let message ← (Message.decode data).mapError Failure.undecodable
    Host.print (messageText message)
    return .success

theorem exists_runCommand_eq (l : Logger) (invocation : Invocation) :
    ∃ name, Program.runCommand l invocation = attempt l name (steps l invocation) := by
  cases invocation with
  | sign o => exact ⟨"sign", rfl⟩
  | verify o => exact ⟨"verify", verifyFile_eq l o⟩
  | inspect o => exact ⟨"inspect", rfl⟩

/-- Whatever lines do not disturb is respected by all commands if the writes of signing respect
it. -/
theorem respects_steps {R : World → World → Prop} [IgnoresLines R] {invocation : Invocation}
    (hR : ∀ o, invocation = .sign o → AllowsSidecars R o) (l : Logger) :
    Respects R (steps l invocation) := by
  cases invocation with
  | sign o => exact respects_signSteps (hR o rfl)
  | verify o =>
    refine respects_bind respects_readFile fun _ => ?_
    refine respects_bind (respects_readTrusted o.trusted) fun _ => ?_
    exact respects_bind respects_liftM fun _ => respects_bind respects_print fun _ => respects_pure
  | inspect o =>
    refine respects_bind respects_readFile fun _ => ?_
    exact respects_bind respects_liftM fun _ => respects_bind respects_print fun _ => respects_pure

theorem respects_runCommand {R : World → World → Prop} [IgnoresLines R] {invocation : Invocation}
    (hR : ∀ o, invocation = .sign o → AllowsSidecars R o) (l : Logger) (w : World) :
    R w ((Program.runCommand l invocation : StateM World Result).run w).2 := by
  obtain ⟨name, hcommand⟩ := exists_runCommand_eq l invocation
  rw [hcommand]
  exact (respects_steps hR l).attempt l name w

/-- Nothing that was logged is taken back. -/
theorem keepsEntries_steps (l : Logger) (invocation : Invocation) :
    Respects KeepsEntries (steps l invocation) :=
  respects_steps (fun _ _ _ _ _ _ => List.prefix_rfl) l

instance (paths : String → Prop) : IsPreorder Tree (Tree.AltersOnly paths) where
  refl := .refl
  trans _ _ _ := .trans

/-- Signing, however it ends, changes nothing but what stands where its format writes. -/
theorem sign_altersOnly (l : Logger) (o : SignOptions) (w : World) :
    Tree.AltersOnly (IsSidecar o) w.files ((sign l o : StateM World Result).run w).2.files := by
  have hallows : AllowsSidecars (OnFiles (Tree.AltersOnly (IsSidecar o))) o :=
    fun path hpath _ w => w.files.altersOnly_store hpath
  have hsign : ∀ o', Invocation.sign o = .sign o' →
      AllowsSidecars (OnFiles (Tree.AltersOnly (IsSidecar o))) o' := by
    rintro o' ⟨⟩
    exact hallows
  exact respects_runCommand hsign l w

/-- A command that does not sign changes no file. -/
theorem files_runCommand {invocation : Invocation} (h : ∀ o, invocation ≠ .sign o) (l : Logger)
    (w : World) :
    ((Program.runCommand l invocation : StateM World Result).run w).2.files = w.files :=
  (respects_runCommand (R := OnFiles Eq) (fun o ho => absurd ho (h o)) l w).symm

end

end Commands

namespace Program

open Commands

variable {start : Start} {w w' : World} {ending : Ending} {o : SignOptions}

/-- The run gets as far as to sign: there is a logger, and the command line is read as a command to
sign. -/
def Signs (start : Start) (o : SignOptions) : Prop :=
  (∃ logger, Logger.fresh.setUp start.settings.logLevel = (.ok (), logger)) ∧
    Invocation.read start.settings start.words = .ok (.sign o)

/-- A run that does not get as far as to sign changes no file. -/
theorem files_run [KeyLibrary] (h : ∀ o, ¬ Signs start o) :
    ((run start : StateM World Ending).run w).2.files = w.files := by
  rw [run_eq]
  split
  · rfl
  · rfl
  next logger invocation hlogger hread =>
    refine files_runCommand ?_ logger w
    rintro o rfl
    exact h o ⟨⟨logger, hlogger⟩, hread⟩

/-- What a run that is told to sign leaves as it was: everything but the files that the format
writes beside the input; the input, unless one of these has its name; and the key, unless one of
these is the same file. -/
structure Spares (o : SignOptions) (t t' : Tree) : Prop where
  others : t.AltersOnly (IsSidecar o) t'
  input : ¬ IsSidecar o (Path.tidy o.input) → ∀ data,
    t'.read (Path.tidy o.input) = .ok data ↔ t.read (Path.tidy o.input) = .ok data
  key : (∀ path, IsSidecar o path → ¬ t.SamePlace path o.keyPath) → ∀ data,
    t'.read o.keyPath = .ok data ↔ t.read o.keyPath = .ok data

theorem isSuffix_of_mem {format : OutputFormat} {suffix : String} (h : suffix ∈ format.suffixes) :
    Path.IsSuffix suffix := by
  cases format with
  | cosesign1 => rcases List.mem_pair.mp h with rfl | rfl <;> exact ⟨by decide, by decide⟩
  | raw =>
    simp only [OutputFormat.suffixes, List.mem_cons, List.not_mem_nil, or_false] at h
    rcases h with rfl | rfl | rfl <;> exact ⟨by decide, by decide⟩

theorem spares_of_altersOnly {t t' : Tree} (h : t.AltersOnly (IsSidecar o) t') : Spares o t t' where
  others := h
  input hinput data := by
    refine h.read_iff fun path hpath => ?_
    obtain ⟨suffix, hsuffix, htarget⟩ := hpath
    refine Path.not_samePlace_tidy t (isSuffix_of_mem hsuffix) htarget ?_
    rintro rfl
    exact hinput ⟨suffix, hsuffix, htarget⟩
  key hkey data := h.read_iff hkey

/-- What signing writes after the hash of the key leaves the hash alone. -/
theorem read_hash_of_writesSigned [KeyLibrary] {key : Rsa.PrivateKey} {data contents : Bytes}
    {t t' : Tree} {target : String} (h : WritesSigned o key data t t')
    (htarget : Path.withSuffix? o.input ".signerpubkeyhash" = some target)
    (hread : t.read target = .ok contents) : t'.read target = .ok contents := by
  have hhash : Path.IsSuffix ".signerpubkeyhash" := ⟨by decide, by decide⟩
  unfold WritesSigned at h
  cases hformat : o.format with
  | cosesign1 =>
    rw [hformat] at h
    obtain ⟨wire, der, -, -, hwrites, -⟩ := h
    exact (hwrites.read_other_iff ⟨by decide, by decide⟩ hhash htarget (by decide)).mpr hread
  | raw =>
    rw [hformat] at h
    obtain ⟨t₁, hsignature, hkey, -⟩ := h
    have hread := (hsignature.read_other_iff ⟨by decide, by decide⟩ hhash htarget (by decide)).mpr
      hread
    exact (hkey.read_other_iff ⟨by decide, by decide⟩ hhash htarget (by decide)).mpr hread

/-- Once a run has signed, the hash of the key stands beside the input. -/
theorem read_hash_of_run [KeyLibrary] {key : Rsa.PrivateKey} {target : String}
    (hread : Invocation.read start.settings start.words = .ok (.sign o))
    (hload : ((loadSigningKey o.keyPath : StateM World _).run w).1 = .ok key)
    (htarget : Path.withSuffix? o.input ".signerpubkeyhash" = some target)
    (hrun : (run start : StateM World Ending).run w = (.finished .success, w')) :
    w'.files.read target = .ok (keyHash key.toPublicKey).bytes := by
  obtain ⟨logger, invocation, -, hread', hcommand⟩ := run_eq_finished_iff.mp hrun
  obtain rfl : .sign o = invocation := Except.ok.inj (hread.symm.trans hread')
  obtain ⟨loaded, t, data, hloaded, ⟨target', htarget', hstore⟩, -, hsigned⟩ :=
    (sign_leaves_iff logger).mp ⟨w', hcommand, rfl⟩
  obtain rfl : key = loaded := Except.ok.inj (hload.symm.trans hloaded)
  obtain rfl : target = target' := Option.some.inj (htarget.symm.trans htarget')
  exact read_hash_of_writesSigned hsigned htarget
    (Tree.read_of_write (Tree.store_eq_ok_iff.mp hstore).1)

theorem isSidecar_bareOptions {path : String} (h : IsSidecar (bareOptions "m.json") path) :
    path = "m.signerpubkeyhash" ∨ path = "m.cosesign1" := by
  obtain ⟨suffix, hsuffix, htarget⟩ := h
  rcases List.mem_pair.mp hsuffix with rfl | rfl
  · exact .inl (Option.some.inj htarget).symm
  · exact .inr (Option.some.inj htarget).symm

theorem not_samePlace_key {path : String} (h : IsSidecar (bareOptions "m.json") path) :
    ¬ (unsignedWorld "m.json").files.SamePlace path "key.pem" := by
  rintro ⟨place, hlocate, hlocate'⟩
  obtain rfl : ["work", "key.pem"] = place := Except.ok.inj hlocate'
  rcases isSidecar_bareOptions h with rfl | rfl
  · have hplace : ["work", "m.signerpubkeyhash"] = ["work", "key.pem"] := Except.ok.inj hlocate
    exact absurd hplace (by decide)
  · have hplace : ["work", "m.cosesign1"] = ["work", "key.pem"] := Except.ok.inj hlocate
    exact absurd hplace (by decide)

/-- In a tree, which has no links, signing leaves its inputs and every other file as they were,
however it ends, unless a file that it writes has the name of one of them. Without a command to sign
nothing is changed at all. -/
theorem spares_of_run [KeyLibrary] (start : Start) (w : World) :
    (∀ o, Invocation.read start.settings start.words = .ok (.sign o) →
      Spares o w.files ((run start : StateM World Ending).run w).2.files) ∧
    ((∀ o, Invocation.read start.settings start.words ≠ .ok (.sign o)) →
      ((run start : StateM World Ending).run w).2.files = w.files) := by
  refine ⟨fun o hread => spares_of_altersOnly ?_,
    fun hread => files_run fun o hsigns => hread o hsigns.2⟩
  rw [run_eq, hread]
  split
  · exact .refl w.files
  · exact .refl w.files
  next logger invocation _ hinvocation =>
    cases hinvocation
    exact sign_altersOnly logger o w

/-- A run that signs a file of two bytes makes a file beside it, and keeps the two bytes and the
key. -/
theorem spares_of_run_specimen :
    (unsignedWorld "m.json").files.exists? "m.signerpubkeyhash" = false ∧
    ∃ w', (run (bareStart "m.json") : StateM World Ending).run (unsignedWorld "m.json") =
        (.finished .success, w') ∧
      w'.files.read "m.signerpubkeyhash" = .ok (keyHash Rsa.specimen.toPublicKey).bytes ∧
      w'.files.read "m.json" = .ok [0x7b, 0x7d] ∧
      w'.files.read "key.pem" = .ok (encodePrivatePem Rsa.specimen) := by
  obtain ⟨hread, hload, w', hrun⟩ := exists_run_bareStart "m.json"
    ((Invocation.read_eq_ok_iff .sign).mpr ⟨_, _, rfl, rfl, rfl, rfl⟩) rfl fun hash _ =>
      ⟨(unsignedWorld "m.json").files.put ["work", "m.signerpubkeyhash"] (.file hash),
        [0x7b, 0x7d], ⟨"m.signerpubkeyhash", rfl, rfl⟩, rfl, by decide, fun wire =>
          ⟨_, "m.cosesign1", rfl, rfl⟩⟩
  obtain ⟨hspares, -⟩ := spares_of_run (bareStart "m.json") (unsignedWorld "m.json")
  have hsparing := hspares _ hread
  rw [hrun] at hsparing
  have hinput : ¬ IsSidecar (bareOptions "m.json") (Path.tidy "m.json") := fun h => by
    rcases isSidecar_bareOptions h with hname | hname
    · exact absurd hname (by decide)
    · exact absurd hname (by decide)
  exact ⟨rfl, w', hrun, read_hash_of_run hread hload rfl hrun,
    (hsparing.input hinput _).mpr rfl, (hsparing.key (fun _ => not_samePlace_key) _).mpr rfl⟩

/-- A file of two bytes is lost when it is signed, if it has the name of the hash. -/
theorem run_sign_loses_input :
    (unsignedWorld "m.signerpubkeyhash").files.read "m.signerpubkeyhash" = .ok [0x7b, 0x7d] ∧
    ∃ w', (run (bareStart "m.signerpubkeyhash") : StateM World Ending).run
        (unsignedWorld "m.signerpubkeyhash") = (.finished .success, w') ∧
      w'.files.read "m.signerpubkeyhash" ≠ .ok [0x7b, 0x7d] := by
  have hlim : (32 : Nat) < Cbor.argumentLimit := by decide
  obtain ⟨hread, hload, w', hrun⟩ := exists_run_bareStart "m.signerpubkeyhash"
    ((Invocation.read_eq_ok_iff .sign).mpr ⟨_, _, rfl, rfl, rfl, rfl⟩) rfl fun hash hlength =>
      ⟨(unsignedWorld "m.signerpubkeyhash").files.put ["work", "m.signerpubkeyhash"] (.file hash),
        hash, ⟨"m.signerpubkeyhash", rfl, rfl⟩, rfl, hlength ▸ hlim, fun wire =>
          ⟨_, "m.cosesign1", rfl, rfl⟩⟩
  refine ⟨rfl, w', hrun, fun hkept => ?_⟩
  have hlost : w'.files.read "m.signerpubkeyhash" = _ := read_hash_of_run hread hload rfl hrun
  have hlength := (keyHash Rsa.specimen.toPublicKey).length_eq
  rw [hkept] at hlost
  rw [← Except.ok.inj hlost] at hlength
  cases hlength

end Program

end Rs256Cose
