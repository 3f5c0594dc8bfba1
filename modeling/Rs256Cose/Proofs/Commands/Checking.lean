import Mathlib
import Rs256Cose.Proofs.CommandLine.Switch
import Rs256Cose.Proofs.Commands.Stopping
import Rs256Cose.Proofs.Keys.Length

/-!
# Checking what was signed

Signing with the check and signing without it take the same steps until everything is written, so
they leave the same files (`ChecksAs`). The check itself accepts every signature that the key has
just made. What it can still refuse is the key of a bare signature: it is exported for the check
alone, and a key with a large exponent cannot be (`checkRefusal`).
-/

namespace Rs256Cose

open Files Keys Log

namespace Commands

variable {o : SignOptions} {l : Logger} {w : World} {key : Rsa.PrivateKey} {data wire der : Bytes}
  {refusal : Option Failure}

/-! ### Two runs side by side -/

/-- What becomes of an answer if whatever succeeded is then refused. -/
def refused (refusal : Option Failure) : Except Failure Result → Except Failure Result
  | .ok .success => refusal.elim (.ok .success) .error
  | answer => answer

/-- The first run ends as the second one does, save that what succeeded may be refused, and leaves
the same files. -/
structure ChecksAs (refusal : Option Failure) (checked plain : Except Failure Result × World) :
    Prop where
  files : checked.2.files = plain.2.files
  answer : checked.1 = refused refusal plain.1

/-- Steps that are the same in both come to nothing in both, or are followed by the rest. -/
theorem checksAs_bind {α : Type} {step : ExceptT Failure (StateM World) α}
    {next next' : α → ExceptT Failure (StateM World) Result}
    (h : ∀ a w₁, Gives step w a w₁ →
      ChecksAs refusal (runIn (next a) w₁) (runIn (next' a) w₁)) :
    ChecksAs refusal (runIn (step >>= next) w) (runIn (step >>= next') w) := by
  rw [runIn_bind, runIn_bind]
  rcases hstep : runIn step w with ⟨failure | a, w₁⟩
  · exact ⟨rfl, rfl⟩
  · exact h a w₁ hstep

/-- A check that succeeds and leaves the files alone is as none. -/
theorem checksAs_of_leaves {check : ExceptT Failure (StateM World) Result}
    (h : Leaves check w .success w.files) :
    ChecksAs none (runIn check w) (.ok .success, w) := by
  obtain ⟨w', hgives, hfiles⟩ := h
  rw [Gives] at hgives
  rw [hgives]
  exact ⟨hfiles, rfl⟩

/-! ### The two formats -/

/-- What keeps the signature that a key makes in a format from being checked. -/
def checkRefusal (format : OutputFormat) (key : Rsa.PrivateKey) : Option Failure :=
  match format with
  | .cosesign1 => none
  | .raw => match exportPublicKey key.toPublicKey with
    | .ok _ => none
    | .error e => some (.key e)

section

variable [KeyLibrary] (hp : key.prime1.Prime) (hq : key.prime2.Prime)
  (hsize : key.toPublicKey.size = requiredBits)

include hp hq hsize

theorem checksAs_signAsMessage :
    ChecksAs none (runIn (signAsMessage l { o with verify := true } key data) w)
      (runIn (signAsMessage l { o with verify := false } key data) w) := by
  unfold signAsMessage
  refine checksAs_bind fun (wire, der) w₁ hmade => checksAs_bind fun _ w₂ _ => ?_
  obtain ⟨hexport, hwire⟩ := messageOf_eq_ok_iff.mp (of_gives_signMessage hmade).1
  obtain ⟨m, -, -, hverify⟩ := verify_of_made hp hq hsize hexport hwire
  exact checksAs_of_leaves
    ((leaves_checkMessage_iff (o := { o with verify := true }) l).mpr ⟨fun _ => ⟨_, hverify⟩, rfl⟩)

theorem checksAs_signRaw :
    ChecksAs (checkRefusal .raw key) (runIn (signRaw l { o with verify := true } key data) w)
      (runIn (signRaw l { o with verify := false } key data) w) := by
  unfold signRaw
  refine checksAs_bind fun _ w₁ _ => checksAs_bind fun _ w₂ _ => ?_
  unfold checkRefusal
  simp only
  cases hexport : exportPublicKey key.toPublicKey with
  | error e =>
    exact ⟨rfl, rfl⟩
  | ok der =>
    obtain ⟨hlow, hhigh⟩ := modulus_bounds hsize
    have hproper := isProper_of_exportPublicKey hsize hexport
    have hload := loadPublicKey_of_exportPublicKey hproper hsize hexport
    have hchecks := KeyLibrary.checks_of_isProper _ hproper hsize key.modulus_odd
    have hvalid := key.isSignature_sign hp hq hlow hhigh.le (sha256 data)
    have hverify : verifyDigest der (sha256 data).bytes (key.sign (sha256 data)).bytes = .ok true :=
      verifyDigest_eq_ok_true_iff.mpr ⟨_, hload, hchecks, hvalid⟩
    have hleaves := (leaves_checkRaw_iff (o := { o with verify := true }) (w := w₂) l).mpr
      ⟨fun _ => ⟨der, hexport, hverify⟩, rfl⟩
    rw [hexport] at hleaves
    exact checksAs_of_leaves hleaves

/-- Once the key is loaded, the check is all that the runs differ in. -/
theorem checksAs_signUnder :
    ChecksAs (checkRefusal o.format key) (runIn (signUnder l { o with verify := true } key) w)
      (runIn (signUnder l { o with verify := false } key) w) := by
  unfold signUnder
  refine checksAs_bind fun _ w₁ _ => checksAs_bind fun data w₂ _ => ?_
  cases hformat : o.format with
  | cosesign1 => exact checksAs_signAsMessage hp hq hsize
  | raw => exact checksAs_signRaw hp hq hsize

end

/-! ### The command -/

/-- A foreseen refusal of what succeeded ends in failure, and all else ends as it did. -/
theorem ChecksAs.attempt {checked plain : ExceptT Failure (StateM World) Result}
    (h : ChecksAs refusal (runIn checked w) (runIn plain w))
    (hforeseen : ∀ f, refusal = some f → f.isForeseen = true) (l : Logger) (name : String) :
    ((attempt l name checked).run w).2.files = ((attempt l name plain).run w).2.files ∧
      ((attempt l name checked).run w).1 =
        if ((attempt l name plain).run w).1 = .success ∧ refusal.isSome then .failure
        else ((attempt l name plain).run w).1 := by
  refine ⟨?_, ?_⟩
  · rw [files_attempt, files_attempt, h.files]
  · rw [run_attempt, run_attempt]
    have hanswer := h.answer
    generalize runIn checked w = after at hanswer ⊢
    generalize runIn plain w = after' at hanswer ⊢
    obtain ⟨answer, w₁⟩ := after
    obtain ⟨f | result, w₂⟩ := after'
    · obtain rfl : answer = .error f := hanswer
      by_cases hf : f.isForeseen = true
      · simp [hf]
      · simp [hf]
    · cases result with
      | success =>
        cases refusal with
        | none =>
          obtain rfl : answer = .ok .success := hanswer
          simp
        | some f =>
          obtain rfl : answer = .error f := hanswer
          simp [hforeseen f rfl]
      | failure =>
        obtain rfl : answer = .ok .failure := hanswer
        simp
      | aborted f =>
        obtain rfl : answer = .ok (.aborted f) := hanswer
        simp

/-- Whatever a check refuses is foreseen. -/
theorem isForeseen_of_checkRefusal {format : OutputFormat} {f : Failure}
    (h : checkRefusal format key = some f) : f.isForeseen = true := by
  unfold checkRefusal at h
  split at h
  · cases h
  · split at h
    · cases h
    · cases h
      rfl

theorem checkRefusal_isSome_iff {format : OutputFormat}
    (hsize : key.toPublicKey.size = requiredBits) :
    (checkRefusal format key).isSome ↔ format = .raw ∧ 2 ^ 167 ≤ key.exponent := by
  rw [← not_lt, ← exportPublicKey_isOk_iff hsize]
  unfold checkRefusal
  cases format with
  | cosesign1 => simp
  | raw =>
    cases exportPublicKey key.toPublicKey with
    | ok der => simp
    | error e => simp

/-- A bare signature is asked for, and the signing key on file is too large for a header. -/
def SignsUnexportable [KeyLibrary] (t : Tree) (o : SignOptions) : Prop :=
  o.format = .raw ∧ ∃ key, signingKeyOf o.keyPath (t.read o.keyPath) = .ok key ∧
    2 ^ 167 ≤ key.exponent

/-- The first ending is the second one and leaves the same files, save that success becomes failure
where the condition holds. -/
structure AgreesUnless {α : Type} (spoilt : Prop) (success failure : α)
    (checked plain : α × World) : Prop where
  files : checked.2.files = plain.2.files
  fails : spoilt → plain.1 = success → checked.1 = failure
  same : ¬ spoilt ∨ plain.1 ≠ success → checked.1 = plain.1

theorem AgreesUnless.refl {α : Type} {spoilt : Prop} {success failure : α} {plain : α × World}
    (h : spoilt → plain.1 ≠ success) : AgreesUnless spoilt success failure plain plain where
  files := rfl
  fails hspoilt hsuccess := absurd hsuccess (h hspoilt)
  same _ := rfl

theorem AgreesUnless.map {α β : Type} {spoilt : Prop} {success failure : α}
    {checked plain : α × World} {f : α → β} (hf : f.Injective)
    (h : AgreesUnless spoilt success failure checked plain) :
    AgreesUnless spoilt (f success) (f failure) (f checked.1, checked.2) (f plain.1, plain.2) where
  files := h.files
  fails hspoilt hsuccess := congrArg f (h.fails hspoilt (hf hsuccess))
  same hcase := congrArg f (h.same (hcase.imp_right fun hne hsuccess => hne (congrArg f hsuccess)))

/-- Signing with the check leaves the files of signing without it, and ends in the same way, unless
a bare signature has been made with a key that cannot be exported: that succeeds only unchecked. -/
theorem sign_verifying [KeyLibrary]
    (hprimes : ∀ key, signingKeyOf o.keyPath (w.files.read o.keyPath) = .ok key →
      key.prime1.Prime ∧ key.prime2.Prime) :
    AgreesUnless (SignsUnexportable w.files o) .success .failure
      ((sign l { o with verify := true } : StateM World Result).run w)
      ((sign l { o with verify := false } : StateM World Result).run w) := by
  rw [sign_eq, sign_eq]
  cases hload : signingKeyOf o.keyPath (w.files.read o.keyPath) with
  | error e =>
    have hsteps : ChecksAs none (runIn (signSteps l { o with verify := true }) w)
        (runIn (signSteps l { o with verify := false }) w) := by
      rw [runIn_signSteps, runIn_signSteps, hload]
      exact ⟨rfl, rfl⟩
    obtain ⟨hfiles, hanswer⟩ := hsteps.attempt nofun l "sign"
    refine ⟨hfiles, ?_, fun _ => by simpa using hanswer⟩
    rintro ⟨-, key, hkey, -⟩
    rw [hload] at hkey
    cases hkey
  | ok key =>
    obtain ⟨hp, hq⟩ := hprimes key hload
    obtain ⟨-, -, -, hsize⟩ := loadSigningKey_eq_ok_iff.mp hload
    have hsteps : ChecksAs (checkRefusal o.format key)
        (runIn (signSteps l { o with verify := true }) w)
        (runIn (signSteps l { o with verify := false }) w) := by
      rw [runIn_signSteps, runIn_signSteps, hload]
      exact checksAs_signUnder hp hq hsize
    obtain ⟨hfiles, hanswer⟩ :=
      hsteps.attempt (fun _ => isForeseen_of_checkRefusal) l "sign"
    have hiff : (checkRefusal o.format key).isSome ↔ SignsUnexportable w.files o := by
      rw [checkRefusal_isSome_iff hsize, SignsUnexportable, hload]
      simp
    refine ⟨hfiles, ?_, ?_⟩
    · intro hlarge hsuccess
      rw [hanswer, if_pos ⟨hsuccess, hiff.mpr hlarge⟩]
    · intro hcase
      rw [hanswer, if_neg]
      rintro ⟨hsuccess, hsome⟩
      exact hcase.elim (fun h => h (hiff.mp hsome)) fun h => h hsuccess

end Commands

namespace Program

open Commands CommandLine

/-- The run would make a bare signature, unchecked, with a key that cannot be exported. -/
def SignsUnexportable [KeyLibrary] (start : Start) (w : World) : Prop :=
  ∃ o, Invocation.read start.settings start.words = .ok (.sign o) ∧ o.verify = false ∧
    Commands.SignsUnexportable w.files o

variable {start : Start} {words : List String} {w : World}

theorem runCommand_verifying [KeyLibrary] (l : Logger) {invocation : Invocation}
    (hprimes : ∀ o key, invocation = .sign o →
      ((loadSigningKey o.keyPath : StateM World _).run w).1 = .ok key →
      key.prime1.Prime ∧ key.prime2.Prime) :
    AgreesUnless (∃ o, invocation = .sign o ∧ o.verify = false ∧
        Commands.SignsUnexportable w.files o) .success .failure
      ((runCommand l invocation.verifying : StateM World Result).run w)
      ((runCommand l invocation : StateM World Result).run w) := by
  cases invocation with
  | verify o => exact .refl nofun
  | inspect o => exact .refl nofun
  | sign o =>
    obtain ⟨input, keyPath, format, embedKey, verify⟩ := o
    cases verify with
    | true =>
      refine .refl ?_
      rintro ⟨o, ho, hunchecked, -⟩
      cases ho
      cases hunchecked
    | false =>
      let o : SignOptions := ⟨input, keyPath, format, embedKey, false⟩
      have hsign := sign_verifying (o := o) (l := l) fun key => hprimes o key rfl
      have hiff : (∃ o', Invocation.sign o = .sign o' ∧ o'.verify = false ∧
          Commands.SignsUnexportable w.files o') ↔ Commands.SignsUnexportable w.files o := by
        refine ⟨?_, fun h => ⟨o, rfl, rfl, h⟩⟩
        rintro ⟨o', ho', -, h⟩
        cases ho'
        exact h
      rw [hiff]
      exact hsign

/-- A run that signs leaves the same files with `--verify` as without, and ends in the same way,
unless a bare signature has been made with a key that cannot be exported: that succeeds only
unchecked. -/
theorem run_verifying_agrees [KeyLibrary] (hwords : start.words = "sign" :: words)
    (hprimes : ∀ o key, Invocation.read start.settings start.words = .ok (.sign o) →
      ((loadSigningKey o.keyPath : StateM World _).run w).1 = .ok key →
      key.prime1.Prime ∧ key.prime2.Prime) :
    AgreesUnless (SignsUnexportable start w) (.finished .success) (.finished .failure)
      ((run { start with words := "sign" :: "--verify" :: words } : StateM World Ending).run w)
      ((run start : StateM World Ending).run w) := by
  have hread : Invocation.read start.settings ("sign" :: "--verify" :: words) =
      (Invocation.read start.settings start.words).map Invocation.verifying := by
    rw [hwords, Invocation.read_sign_verify]
  have hsettings : Start.settings { start with words := "sign" :: "--verify" :: words } =
    start.settings := rfl
  rw [run_eq, run_eq, hsettings, hread]
  unfold SignsUnexportable
  generalize Logger.fresh.setUp start.settings.logLevel = attached
  generalize Invocation.read start.settings start.words = reading at hprimes ⊢
  rcases attached with ⟨error | ⟨⟨⟩⟩, logger⟩
  · exact .refl fun _ => nofun
  cases reading with
  | error stop => exact .refl fun _ => nofun
  | ok invocation =>
    have hfinished : Function.Injective Ending.finished := fun _ _ => Ending.finished.inj
    simp only [Except.map, Except.ok.injEq] at hprimes ⊢
    exact (runCommand_verifying logger hprimes).map hfinished

/-! ### Runs that make a bare signature -/

/-- The world with one signing key on file, and a file of two bytes to sign. -/
def rawWorld (key : Rsa.PrivateKey) : World :=
  .ofFiles <| ((Tree.workingIn ["work"]).put ["work", "key.pem"] <|
    .file (encodePrivatePem key)).put ["work", "m.json"] <| .file [0x7b, 0x7d]

def rawWords : List String := ["m.json", "--key", "key.pem", "--output-format", "raw"]

def rawStart : Start := ⟨[], "", "sign" :: rawWords⟩

def rawOptions : SignOptions := ⟨"m.json", "key.pem", .raw, true, false⟩

theorem settings_rawStart : rawStart.settings = Settings.fallback := settings_unset _

theorem read_rawStart :
    Invocation.read rawStart.settings rawStart.words = .ok (.sign rawOptions) := by
  rw [settings_rawStart]
  exact (Invocation.read_eq_ok_iff .sign).mpr ⟨_, _, rfl, rfl, rfl, rfl⟩

theorem writes_rawWorld (key : Rsa.PrivateKey) (hash signature pub : Bytes) : ∃ t₁ t₂ t₃,
    Path.WritesBeside (rawWorld key).files "m.json" ".signerpubkeyhash" hash t₁ ∧
    t₁.read (Path.tidy "m.json") = .ok [0x7b, 0x7d] ∧
    Path.WritesBeside t₁ "m.json" ".sig" signature t₂ ∧
    Path.WritesBeside t₂ "m.json" ".pub" pub t₃ :=
  ⟨_, _, _, ⟨"m.signerpubkeyhash", rfl, rfl⟩, rfl, ⟨"m.sig", rfl, rfl⟩, ⟨"m.pub", rfl, rfl⟩⟩

section

variable [KeyLibrary] {key : Rsa.PrivateKey}
  (hkey : readPrivatePem (encodePrivatePem key) = .ok (.rsa key))
  (hsize : key.toPublicKey.size = requiredBits)

include hkey hsize

theorem loadSigningKey_rawWorld :
    ((loadSigningKey "key.pem" : StateM World _).run (rawWorld key)).1 = .ok key :=
  loadSigningKey_eq_ok_iff.mpr ⟨_, rfl, hkey, hsize⟩

/-- Such a run signs with this key and no other. -/
theorem eq_of_read_rawStart {o : SignOptions} {loaded : Rsa.PrivateKey}
    (hread : Invocation.read rawStart.settings rawStart.words = .ok (.sign o))
    (hload : ((loadSigningKey o.keyPath : StateM World _).run (rawWorld key)).1 = .ok loaded) :
    key = loaded := by
  rw [read_rawStart] at hread
  cases hread
  exact Except.ok.inj ((loadSigningKey_rawWorld hkey hsize).symm.trans hload)

theorem signsUnexportable_rawStart_iff :
    SignsUnexportable rawStart (rawWorld key) ↔ 2 ^ 167 ≤ key.exponent := by
  refine ⟨?_, ?_⟩
  · rintro ⟨o, hread, -, -, loaded, hload, hlarge⟩
    obtain rfl := eq_of_read_rawStart hkey hsize hread hload
    exact hlarge
  · intro hlarge
    have hload := loadSigningKey_rawWorld hkey hsize
    rw [run_loadSigningKey] at hload
    dsimp only at hload
    exact ⟨rawOptions, read_rawStart, rfl, rfl, key, hload, hlarge⟩

theorem exists_run_rawStart (hp : key.prime1.Prime) (hq : key.prime2.Prime) : ∃ w',
    (run rawStart : StateM World Ending).run (rawWorld key) = (.finished .success, w') ∧
      HasSignature w'.files "m.json" key.toPublicKey [0x7b, 0x7d] := by
  obtain ⟨t₁, t₂, t₃, hhash, hread, hsignature, hpub⟩ := writes_rawWorld key
    (keyHash key.toPublicKey).bytes (key.sign (sha256 [0x7b, 0x7d])).bytes
    (encodePublicPem key.toPublicKey)
  have hsigned : WritesSignature rawOptions key [0x7b, 0x7d] t₁ t₃ :=
    ⟨t₂, hsignature, hpub, nofun⟩
  obtain ⟨w', hcommand, rfl⟩ := (sign_leaves_iff (o := rawOptions) ⟨1, .info⟩).mpr
    ⟨key, t₁, _, loadSigningKey_rawWorld hkey hsize, hhash, hread, hsigned⟩
  have hreading := read_rawStart
  rw [settings_rawStart] at hreading
  exact ⟨w', run_unset_eq_finished_iff.mpr ⟨_, hreading, hcommand⟩,
    hsigned.hasSignature hp hq hsize⟩

end

/-- With `--verify` a run that signs leaves the files that it leaves without, and it ends in the
same way, unless a bare signature is made with a key that cannot be exported: where that succeeds
without the check, it fails with it. -/
theorem run_sign_verify [KeyLibrary] {ending ending' : Ending} {w₁ w₂ : World}
    (hwords : start.words = "sign" :: words)
    (hprimes : ∀ o key, Invocation.read start.settings start.words = .ok (.sign o) →
      ((loadSigningKey o.keyPath : StateM World _).run w).1 = .ok key →
      key.prime1.Prime ∧ key.prime2.Prime)
    (hplain : (run start : StateM World Ending).run w = (ending, w₁))
    (hchecked : (run { start with words := "sign" :: "--verify" :: words } :
      StateM World Ending).run w = (ending', w₂)) :
    w₂.files = w₁.files ∧ (¬ SignsUnexportable start w → ending' = ending) ∧
      (SignsUnexportable start w →
        ending' = if ending = .finished .success then .finished .failure else ending) := by
  have h := run_verifying_agrees hwords hprimes
  rw [hplain, hchecked] at h
  refine ⟨h.files, fun hexportable => h.same (.inl hexportable), fun hunexportable => ?_⟩
  split_ifs with hsuccess
  · exact h.fails hunexportable hsuccess
  · exact h.same (.inr hsuccess)

theorem run_sign_verify_specimen : ∃ w₁ w₂,
    (run rawStart : StateM World Ending).run (rawWorld Rsa.specimen) = (.finished .success, w₁) ∧
    (run ⟨[], "", "sign" :: "--verify" :: rawWords⟩ : StateM World Ending).run
      (rawWorld Rsa.specimen) = (.finished .success, w₂) ∧ w₂.files = w₁.files := by
  have hwords : rawStart.words = "sign" :: rawWords := rfl
  obtain ⟨w₁, hplain, -⟩ := exists_run_rawStart readPrivatePem_specimen size_specimen
    Rsa.prime_specimenPrime1 Rsa.prime_specimenPrime2
  obtain ⟨hfiles, hsame, -⟩ := run_sign_verify hwords (fun o key hread hload => by
    obtain rfl := eq_of_read_rawStart readPrivatePem_specimen size_specimen hread hload
    exact ⟨Rsa.prime_specimenPrime1, Rsa.prime_specimenPrime2⟩) hplain rfl
  have hexportable : ¬ SignsUnexportable rawStart (rawWorld Rsa.specimen) := by
    rw [signsUnexportable_rawStart_iff readPrivatePem_specimen size_specimen]
    decide
  exact ⟨w₁, _, hplain, Prod.ext (hsame hexportable) rfl, hfiles⟩

/-- The same signature, which does verify, stands on file after both runs, but with the check the
run fails. -/
theorem run_sign_verify_unexportable :
    ((loadSigningKey "key.pem" : StateM World _).run (rawWorld Rsa.mirrored)).1 =
      .ok Rsa.mirrored ∧
    Rsa.mirrored.prime1.Prime ∧ Rsa.mirrored.prime2.Prime ∧
    Rsa.mirrored.exponent < Rsa.mirrored.modulus ∧ ∃ w₁ w₂,
      (run rawStart : StateM World Ending).run (rawWorld Rsa.mirrored) = (.finished .success, w₁) ∧
      (run ⟨[], "", "sign" :: "--verify" :: rawWords⟩ : StateM World Ending).run
        (rawWorld Rsa.mirrored) = (.finished .failure, w₂) ∧ w₂.files = w₁.files ∧
      HasSignature w₁.files "m.json" Rsa.mirrored.toPublicKey [0x7b, 0x7d] := by
  have hwords : rawStart.words = "sign" :: rawWords := rfl
  have hlarge : 2 ^ 167 ≤ Rsa.mirrored.exponent := by decide +kernel
  obtain ⟨w₁, hplain, hsignature⟩ := exists_run_rawStart readPrivatePem_mirrored size_mirrored
    Rsa.prime_specimenPrime1 Rsa.prime_specimenPrime2
  have hunexportable :=
    (signsUnexportable_rawStart_iff readPrivatePem_mirrored size_mirrored).mpr hlarge
  have h := run_verifying_agrees (w := rawWorld Rsa.mirrored) hwords fun o key hread hload => by
    obtain rfl := eq_of_read_rawStart readPrivatePem_mirrored size_mirrored hread hload
    exact ⟨Rsa.prime_specimenPrime1, Rsa.prime_specimenPrime2⟩
  rw [hplain] at h
  exact ⟨loadSigningKey_rawWorld readPrivatePem_mirrored size_mirrored, Rsa.prime_specimenPrime1,
    Rsa.prime_specimenPrime2, Rsa.isProper_mirrored.exponent_lt, w₁, _, hplain,
    Prod.ext (h.fails hunexportable rfl) rfl, h.files, hsignature⟩

end Program

end Rs256Cose
