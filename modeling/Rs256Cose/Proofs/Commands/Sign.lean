import Mathlib
import Rs256Cose.Proofs.CommandLine.Invocation
import Rs256Cose.Proofs.Message.Binding
import Rs256Cose.Proofs.Program

/-!
# Signing a file

What the parts of `sign` leave on file is said in writes beside the input (`WritesMessage`,
`WritesSignature`). The command succeeds if and only if the key loads, its hash can be written, and
what the input holds after that can be read, signed and written (`sign_leaves_iff`). When the
factors of the key are prime, what was written verifies (`WritesSigned.hasSigned`).

The hash is written before the input is read. So a run signs what the file held at the start
(`Program.signed_of_run`), unless the file has the name that the hash is written to: then the hash
itself is signed (`Program.hasSigned_hash_of_run`).

Which files are one and the same is told by their names, as in every tree: there are no links.
-/

namespace Rs256Cose

open Files Keys Log

namespace Commands

variable {o : SignOptions} {w w' : World} {t : Tree} {key : Rsa.PrivateKey} {data wire der : Bytes}

/-! ### A signed message -/

theorem leaves_signMessage_iff (l : Logger) {embedKey : Bool} :
    Leaves (signMessage l key embedKey data) w (wire, der) t ↔
      exportPublicKey key.toPublicKey = .ok der ∧
      (Draft.ofSupplied (.bytes data) (if embedKey then .bytes der else .absent)).bind
        (·.sign key) = .ok wire ∧ w.files = t := by
  unfold signMessage
  simp only [leaves_bind_iff, gives_liftM_iff, gives_log_iff, leaves_pure_iff, mapError_eq_ok_iff,
    Prod.mk.injEq, bind_eq_ok_iff]
  refine ⟨?_, ?_⟩
  · rintro ⟨der, _, ⟨hexport, rfl⟩, draft, _, ⟨hdraft, rfl⟩, digest, _, ⟨hdigest, rfl⟩, _, _, rfl,
      wire, _, ⟨hwire, rfl⟩, _, _, rfl, ⟨rfl, rfl⟩, hfiles⟩
    simp only [World.files_logged] at hfiles
    exact ⟨hexport, ⟨draft, hdraft, hwire⟩, hfiles⟩
  · rintro ⟨hexport, ⟨draft, hdraft, hwire⟩, hfiles⟩
    obtain ⟨digest, hdigest, -⟩ := do_eq_ok_iff.mp hwire
    refine ⟨der, _, ⟨hexport, rfl⟩, draft, _, ⟨hdraft, rfl⟩, digest, _, ⟨hdigest, rfl⟩, (), _, rfl,
      wire, _, ⟨hwire, rfl⟩, (), _, rfl, ⟨rfl, rfl⟩, ?_⟩
    simp only [World.files_logged, hfiles]

section

variable [KeyLibrary]

/-- The last steps of `signAsMessage`: the check, if it is asked for. -/
theorem leaves_checkMessage_iff (l : Logger) : Leaves (do
      if o.verify then
        let _ ← (verify wire (some der)).mapError Failure.ofVerifyError
        log l .info "COSE_Sign1 verification successful"
      return Result.success) w .success t ↔
    (o.verify = true → ∃ v, verify wire (some der) = .ok v) ∧ w.files = t := by
  split_ifs with hverify
  · rw [leaves_bind_iff]
    simp only [gives_liftM_iff, mapError_eq_ok_iff, leaves_log_pure_iff, hverify, true_imp_iff]
    refine ⟨?_, ?_⟩
    · rintro ⟨v, _, ⟨hv, rfl⟩, -, hfiles⟩
      exact ⟨⟨v, hv⟩, hfiles⟩
    · rintro ⟨⟨v, hv⟩, hfiles⟩
      exact ⟨v, w, ⟨hv, rfl⟩, trivial, hfiles⟩
  · simp [leaves_pure_iff, hverify]

/-- The second tree is the first with the signed message of the data beside the input. -/
def WritesMessage (o : SignOptions) (key : Rsa.PrivateKey) (data : Bytes) (t t' : Tree) : Prop :=
  ∃ wire der, exportPublicKey key.toPublicKey = .ok der ∧
    (Draft.ofSupplied (.bytes data) (if o.embedKey then .bytes der else .absent)).bind
      (·.sign key) = .ok wire ∧
    Path.WritesBeside t o.input ".cosesign1" wire t' ∧
    (o.verify = true → ∃ v, verify wire (some der) = .ok v)

theorem leaves_signAsMessage_iff (l : Logger) :
    Leaves (signAsMessage l o key data) w .success t ↔ WritesMessage o key data w.files t := by
  unfold signAsMessage
  refine ⟨?_, ?_⟩
  · intro h
    obtain ⟨⟨wire, der⟩, w₁, hmade, h⟩ := leaves_bind_iff.mp h
    obtain ⟨w₂, hwrites, h⟩ := of_leaves_writeBeside h
    obtain ⟨hexport, hwire, hfiles⟩ := (leaves_signMessage_iff l).mp ⟨w₁, hmade, rfl⟩
    obtain ⟨hcheck, rfl⟩ := (leaves_checkMessage_iff l).mp h
    exact ⟨wire, der, hexport, hwire, hfiles ▸ hwrites, hcheck⟩
  · rintro ⟨wire, der, hexport, hwire, hwrites, hcheck⟩
    obtain ⟨w₁, hmade, hfiles⟩ := (leaves_signMessage_iff l).mpr ⟨hexport, hwire, rfl⟩
    rw [← hfiles] at hwrites
    obtain ⟨w₂, hwritten, hfiles⟩ := (leaves_writeBeside_iff l "COSE_Sign1 object").mpr hwrites
    refine leaves_bind_iff.mpr ⟨(wire, der), w₁, hmade, ?_⟩
    refine leaves_bind_iff.mpr ⟨(), w₂, hwritten, ?_⟩
    exact (leaves_checkMessage_iff l).mpr ⟨hcheck, hfiles⟩

end

/-! ### A bare signature -/

section

variable [KeyLibrary]

/-- The last steps of `signRaw`: the check, if it is asked for. -/
theorem leaves_checkRaw_iff (l : Logger) {signature : Bytes} : Leaves (do
      if o.verify then
        let der ← (exportPublicKey key.toPublicKey).mapError Failure.key
        if ← (verifyDigest der (sha256 data).bytes signature).mapError Failure.ofVerifyError then
          log l .info "Signature verification successful"
        else
          log l .error "Signature verification failed"
          return .failure
      return Result.success) w .success t ↔
    (o.verify = true → ∃ der, exportPublicKey key.toPublicKey = .ok der ∧
      verifyDigest der (sha256 data).bytes signature = .ok true) ∧ w.files = t := by
  split_ifs with hverify
  · simp only [leaves_bind_iff, gives_liftM_iff, mapError_eq_ok_iff, hverify, true_imp_iff]
    refine ⟨?_, ?_⟩
    · rintro ⟨der, _, ⟨hexport, rfl⟩, accepted, _, ⟨haccepted, rfl⟩, h⟩
      split_ifs at h with htrue
      · obtain ⟨-, hfiles⟩ := leaves_log_pure_iff.mp h
        exact ⟨⟨der, hexport, htrue ▸ haccepted⟩, hfiles⟩
      · cases (leaves_log_pure_iff.mp h).1
    · rintro ⟨⟨der, hexport, haccepted⟩, hfiles⟩
      refine ⟨der, w, ⟨hexport, rfl⟩, true, w, ⟨haccepted, rfl⟩, ?_⟩
      rw [if_pos rfl]
      exact leaves_log_pure_iff.mpr ⟨rfl, hfiles⟩
  · simp [leaves_pure_iff, hverify]

/-- The second tree is the first with the signature of the data and the public key beside the
input. -/
def WritesSignature (o : SignOptions) (key : Rsa.PrivateKey) (data : Bytes) (t t' : Tree) : Prop :=
  ∃ t₁, Path.WritesBeside t o.input ".sig" (key.sign (sha256 data)).bytes t₁ ∧
    Path.WritesBeside t₁ o.input ".pub" (encodePublicPem key.toPublicKey) t' ∧
    (o.verify = true → ∃ der, exportPublicKey key.toPublicKey = .ok der ∧
      verifyDigest der (sha256 data).bytes (key.sign (sha256 data)).bytes = .ok true)

theorem leaves_signRaw_iff (l : Logger) :
    Leaves (signRaw l o key data) w .success t ↔ WritesSignature o key data w.files t := by
  unfold signRaw
  refine ⟨?_, ?_⟩
  · intro h
    obtain ⟨w₁, hwrites, h⟩ := of_leaves_writeBeside h
    obtain ⟨w₂, hwrites', h⟩ := of_leaves_writeBeside h
    obtain ⟨hcheck, rfl⟩ := (leaves_checkRaw_iff l).mp h
    exact ⟨w₁.files, hwrites, hwrites', hcheck⟩
  · rintro ⟨t₁, hwrites, hwrites', hcheck⟩
    obtain ⟨w₁, hsignature, rfl⟩ := (leaves_writeBeside_iff l "Signature").mpr hwrites
    obtain ⟨w₂, hkey, hfiles⟩ := (leaves_writeBeside_iff l "Public key").mpr hwrites'
    refine leaves_bind_iff.mpr ⟨(), w₁, hsignature, ?_⟩
    refine leaves_bind_iff.mpr ⟨(), w₂, hkey, ?_⟩
    exact (leaves_checkRaw_iff l).mpr ⟨hcheck, hfiles⟩

/-! ### The command -/

theorem gives_loadSigningKey_iff {path : String} {answer : Except LoadError Rsa.PrivateKey} :
    Gives (loadSigningKey path) w answer w' ↔
      ((loadSigningKey path : StateM World _).run w).1 = answer ∧ w = w' := by
  rw [run_loadSigningKey]
  unfold loadSigningKey
  simp only [gives_bind_iff, gives_read_iff, gives_pure_iff]
  refine ⟨?_, ?_⟩
  · rintro ⟨text, _, ⟨rfl, rfl⟩, rfl, rfl⟩
    exact ⟨rfl, rfl⟩
  · rintro ⟨rfl, rfl⟩
    exact ⟨_, w, ⟨rfl, rfl⟩, rfl, rfl⟩

/-- The second tree is the first with what the format asks for written beside the input. -/
def WritesSigned (o : SignOptions) (key : Rsa.PrivateKey) (data : Bytes) (t t' : Tree) : Prop :=
  match o.format with
  | .cosesign1 => WritesMessage o key data t t'
  | .raw => WritesSignature o key data t t'

theorem leaves_signAs_iff (l : Logger) :
    Leaves (match o.format with
      | .cosesign1 => signAsMessage l o key data
      | .raw => signRaw l o key data) w .success t ↔ WritesSigned o key data w.files t := by
  unfold WritesSigned
  cases o.format with
  | cosesign1 => exact leaves_signAsMessage_iff l
  | raw => exact leaves_signRaw_iff l

/-- Signing succeeds if and only if the key loads, its hash can be written, the input can be read
after that, and what was read can be signed and the results written. -/
theorem sign_leaves_iff (l : Logger) :
    (∃ w', (sign l o : StateM World Result).run w = (.success, w') ∧ w'.files = t) ↔
      ∃ key t₁ data, ((loadSigningKey o.keyPath : StateM World _).run w).1 = .ok key ∧
        Path.WritesBeside w.files o.input ".signerpubkeyhash" (keyHash key.toPublicKey).bytes t₁ ∧
        t₁.read (Path.tidy o.input) = .ok data ∧ WritesSigned o key data t₁ t := by
  unfold sign
  simp only [attempt_eq_success_iff, gives_bind_iff, gives_loadSigningKey_iff, gives_liftM_iff,
    gives_log_iff, gives_readFile_iff, mapError_eq_ok_iff]
  refine ⟨?_, ?_⟩
  · rintro ⟨w', ⟨answer, _, ⟨hload, rfl⟩, key, _, ⟨rfl, rfl⟩, _, _, rfl, _, w₁, hwritten, data, _,
      ⟨hread, rfl⟩, hsigned⟩, rfl⟩
    have hwrites := (leaves_writeBeside_iff l _).mp ⟨w₁, hwritten, rfl⟩
    rw [World.files_logged] at hwrites
    exact ⟨key, w₁.files, data, hload, hwrites, hread,
      (leaves_signAs_iff l).mp ⟨w', hsigned, rfl⟩⟩
  · rintro ⟨key, t₁, data, hload, hwrites, hread, hsigned⟩
    have hlogged := w.files_logged l .info
      s!"Signer public key hash: {(keyHash key.toPublicKey).bytes.hex}"
    rw [← hlogged] at hwrites
    obtain ⟨w₁, hwritten, rfl⟩ := (leaves_writeBeside_iff l "Signer's public key hash").mpr hwrites
    obtain ⟨w', hgives, hfiles⟩ := (leaves_signAs_iff l).mpr hsigned
    exact ⟨w', ⟨.ok key, w, ⟨hload, rfl⟩, key, w, ⟨rfl, rfl⟩, (), _, rfl, (), w₁, hwritten, data,
      w₁, ⟨hread, rfl⟩, hgives⟩, hfiles⟩

/-! ### What stands on file -/

/-- Beside a path stands a message of this payload, and it verifies under the key. -/
def HasMessage (files : Tree) (path : String) (key : Rsa.PublicKey) (payload : Bytes) : Prop :=
  ∃ target wire m der, Path.withSuffix? path ".cosesign1" = some target ∧
    files.read target = .ok wire ∧ Message.decode wire = .ok m ∧ m.payload = payload ∧
    exportPublicKey key = .ok der ∧ verify wire (some der) = .ok ⟨m.payload, m.key⟩

/-- Beside a path stand the PEM of the key and a signature of these data under the key. It verifies
under the key in PEM and in DER, if the exponent is one that the library must take. -/
def HasSignature (files : Tree) (path : String) (key : Rsa.PublicKey) (data : Bytes) : Prop :=
  ∃ target signature pubTarget pem, Path.withSuffix? path ".sig" = some target ∧
    files.read target = .ok signature ∧ Path.withSuffix? path ".pub" = some pubTarget ∧
    files.read pubTarget = .ok pem ∧ pem = encodePublicPem key ∧
    key.IsSignature (sha256 data) signature ∧
    (key.exponent < key.modulus → verifyDigest pem (sha256 data).bytes signature = .ok true ∧
      verifyDigest (encodePublicInfo key) (sha256 data).bytes signature = .ok true)

/-- What the format asks for stands beside the input. -/
def HasSigned (files : Tree) (o : SignOptions) (key : Rsa.PublicKey) (data : Bytes) : Prop :=
  match o.format with
  | .cosesign1 => HasMessage files o.input key data
  | .raw => HasSignature files o.input key data

/-- One file holds one message. -/
theorem HasMessage.payload_eq {files : Tree} {path : String} {publicKey : Rsa.PublicKey}
    {payload payload' : Bytes} (h : HasMessage files path publicKey payload)
    (h' : HasMessage files path publicKey payload') : payload = payload' := by
  obtain ⟨target, wire, m, -, htarget, hread, hdecode, rfl, -⟩ := h
  obtain ⟨target', wire', m', -, htarget', hread', hdecode', rfl, -⟩ := h'
  obtain rfl : target = target' := Option.some.inj (htarget.symm.trans htarget')
  obtain rfl : wire = wire' := Except.ok.inj (hread.symm.trans hread')
  obtain rfl : m = m' := Except.ok.inj (hdecode.symm.trans hdecode')
  rfl

section

variable {t' : Tree} (hp : key.prime1.Prime) (hq : key.prime2.Prime)
  (hsize : key.toPublicKey.size = requiredBits)

include hp hq hsize

/-- What was made of a file's contents is read as a message with this payload and verifies. -/
theorem verify_of_made {embedKey : Bool} (hexport : exportPublicKey key.toPublicKey = .ok der)
    (hwire : (Draft.ofSupplied (.bytes data) (if embedKey then .bytes der else .absent)).bind
      (·.sign key) = .ok wire) :
    ∃ m, Message.decode wire = .ok m ∧ m.payload = data ∧
      verify wire (some der) = .ok ⟨m.payload, m.key⟩ := by
  obtain ⟨d, hdraft, rfl, hder⟩ := Draft.exists_ofSupplied_eq hexport data embedKey
  rw [hdraft] at hwire
  obtain ⟨hlim, rfl⟩ := Draft.sign_eq_ok_iff.mp hwire
  have hpermits : Permits (d.key.getD .empty).der (some der) := by
    rw [hder]
    cases embedKey with
    | false => exact .inl rfl
    | true => exact .inr rfl
  exact ⟨_, Draft.decode_signed hlim, rfl, verify_signed hp hq hsize hexport hlim hpermits rfl⟩

theorem WritesMessage.hasMessage (h : WritesMessage o key data t t') :
    HasMessage t' o.input key.toPublicKey data := by
  obtain ⟨wire, der, hexport, hwire, hwrites, -⟩ := h
  obtain ⟨target, htarget, hread⟩ := hwrites.read_target
  obtain ⟨m, hdecode, hpayload, hverify⟩ := verify_of_made hp hq hsize hexport hwire
  exact ⟨target, wire, m, der, htarget, hread, hdecode, hpayload, hexport, hverify⟩

theorem WritesSignature.hasSignature (h : WritesSignature o key data t t') :
    HasSignature t' o.input key.toPublicKey data := by
  obtain ⟨t₁, hsignature, hkey, -⟩ := h
  obtain ⟨target, htarget, hread⟩ := hsignature.read_target
  obtain ⟨pubTarget, hpubTarget, hpub⟩ := hkey.read_target
  obtain ⟨hlow, hhigh⟩ := modulus_bounds hsize
  have hvalid := key.isSignature_sign hp hq hlow hhigh.le (sha256 data)
  refine ⟨target, _, pubTarget, _, htarget, ?_, hpubTarget, hpub, rfl, hvalid, fun hexponent => ?_⟩
  · exact (hkey.read_other_iff ⟨by decide, by decide⟩ ⟨by decide, by decide⟩ htarget
      (by decide)).mpr hread
  · have hproper : key.toPublicKey.IsProper := ⟨key.exponent_odd, key.three_le_exponent, hexponent⟩
    have hchecks := KeyLibrary.checks_of_isProper _ hproper hsize key.modulus_odd
    exact ⟨verifyDigest_eq_ok_true_iff.mpr ⟨_, loadPublicKey_pem hproper hsize, hchecks, hvalid⟩,
      verifyDigest_eq_ok_true_iff.mpr
        ⟨_, loadPublicKey_encodePublicInfo hproper hsize, hchecks, hvalid⟩⟩

theorem WritesSigned.hasSigned (h : WritesSigned o key data t t') :
    HasSigned t' o key.toPublicKey data := by
  unfold WritesSigned at h
  unfold HasSigned
  cases hformat : o.format with
  | cosesign1 =>
    rw [hformat] at h
    exact h.hasMessage hp hq hsize
  | raw =>
    rw [hformat] at h
    exact h.hasSignature hp hq hsize

end

end

end Commands

namespace Program

open Commands CommandLine

section

variable [KeyLibrary]

section

variable {start : Start} (hread : Invocation.read start.settings start.words = .ok (.sign o))
  (hload : ((loadSigningKey o.keyPath : StateM World _).run w).1 = .ok key)
  (hp : key.prime1.Prime) (hq : key.prime2.Prime)
  (hrun : (run start : StateM World Ending).run w = (.finished .success, w'))

include hread hload hp hq hrun

/-- What a run signs is what the input holds once the hash of the key has been written. -/
theorem hasSigned_of_run : ∃ t data,
    Path.WritesBeside w.files o.input ".signerpubkeyhash" (keyHash key.toPublicKey).bytes t ∧
      t.read (Path.tidy o.input) = .ok data ∧ HasSigned w'.files o key.toPublicKey data := by
  obtain ⟨-, -, -, hsize⟩ := loadSigningKey_eq_ok_iff.mp hload
  obtain ⟨logger, invocation, -, hread', hcommand⟩ := run_eq_finished_iff.mp hrun
  obtain rfl : .sign o = invocation := Except.ok.inj (hread.symm.trans hread')
  obtain ⟨loaded, t, data, hloaded, hhash, hdata, hsigned⟩ :=
    (sign_leaves_iff logger).mp ⟨w', hcommand, rfl⟩
  obtain rfl : key = loaded := Except.ok.inj (hload.symm.trans hloaded)
  exact ⟨t, data, hhash, hdata, hsigned.hasSigned hp hq hsize⟩

/-- A file of the name that the hash of the key is written to is lost before it is read: what the
run signs is the hash. -/
theorem hasSigned_hash_of_run
    (hname : Path.withSuffix? o.input ".signerpubkeyhash" = some (Path.tidy o.input)) :
    HasSigned w'.files o key.toPublicKey (keyHash key.toPublicKey).bytes := by
  obtain ⟨t, data, hhash, hdata, hsigned⟩ := hasSigned_of_run hread hload hp hq hrun
  rw [hhash.read_tidy hname] at hdata
  obtain rfl := Except.ok.inj hdata
  exact hsigned

end

/-- A run that signs a file, unless its name is the one that the hash of the key is written to,
signs what the file held at the start, in a tree without links. -/
theorem signed_of_run {start : Start}
    (hread : Invocation.read start.settings start.words = .ok (.sign o))
    (hload : ((loadSigningKey o.keyPath : StateM World _).run w).1 = .ok key)
    (hp : key.prime1.Prime) (hq : key.prime2.Prime)
    (hname : Path.withSuffix? o.input ".signerpubkeyhash" ≠ some (Path.tidy o.input))
    (hrun : (run start : StateM World Ending).run w = (.finished .success, w')) :
    ∃ data, w.files.read (Path.tidy o.input) = .ok data ∧
      HasSigned w'.files o key.toPublicKey data := by
  obtain ⟨t, data, hhash, hdata, hsigned⟩ := hasSigned_of_run hread hload hp hq hrun
  exact ⟨data, (hhash.read_tidy_iff ⟨by decide, by decide⟩ hname).mp hdata, hsigned⟩

end

/-! ### Runs that sign two bytes -/

/-- The world with one signing key on file, and a file of two bytes beside it. -/
def unsignedWorld (name : String) : World :=
  .ofFiles <| specimenWorld.files.put ["work", name] (.file [0x7b, 0x7d])

/-- The start of a run that is told of the file and the key alone. -/
def bareStart (name : String) : Start := ⟨[], "", ["sign", name, "--key", "key.pem"]⟩

def bareOptions (name : String) : SignOptions := ⟨name, "key.pem", .cosesign1, true, false⟩

/-- Such a run succeeds where the hash and the message can be written and there is something to
sign in between. -/
theorem exists_run_bareStart (name : String)
    (hread : Invocation.read Settings.fallback (bareStart name).words =
      .ok (.sign (bareOptions name)))
    (hkey : (unsignedWorld name).files.read "key.pem" = .ok (encodePrivatePem Rsa.specimen))
    (hfiles : ∀ hash : Bytes, hash.length = 32 → ∃ t data,
      Path.WritesBeside (unsignedWorld name).files name ".signerpubkeyhash" hash t ∧
      t.read (Path.tidy name) = .ok data ∧ data.length < Cbor.argumentLimit ∧
      ∀ wire, ∃ t', Path.WritesBeside t name ".cosesign1" wire t') :
    Invocation.read (bareStart name).settings (bareStart name).words =
        .ok (.sign (bareOptions name)) ∧
      ((loadSigningKey "key.pem" : StateM World _).run (unsignedWorld name)).1 =
        .ok Rsa.specimen ∧
      ∃ w', (run (bareStart name) : StateM World Ending).run (unsignedWorld name) =
        (.finished .success, w') := by
  have hload := loadSigningKey_eq_ok_iff.mpr ⟨_, hkey, readPrivatePem_specimen, size_specimen⟩
  obtain ⟨t, data, hhash, hdata, hlim, hwrites⟩ :=
    hfiles _ (keyHash Rsa.specimen.toPublicKey).length_eq
  obtain ⟨d, hdraft, rfl, -⟩ := Draft.exists_ofSupplied_eq exportPublicKey_specimen data true
  obtain ⟨t', hmessage⟩ := hwrites (d.signed Rsa.specimen).layout
  have hsign : d.sign Rsa.specimen = .ok _ := Draft.sign_eq_ok_iff.mpr ⟨hlim, rfl⟩
  have hsigned : WritesMessage (bareOptions name) Rsa.specimen d.payload t t' :=
    ⟨_, _, exportPublicKey_specimen, bind_eq_ok_iff.mpr ⟨d, hdraft, hsign⟩, hmessage, nofun⟩
  obtain ⟨w', hcommand, -⟩ := (sign_leaves_iff (o := bareOptions name) ⟨1, .info⟩).mpr
    ⟨Rsa.specimen, t, d.payload, hload, hhash, hdata, hsigned⟩
  have hrun := run_unset_eq_finished_iff.mpr ⟨_, hread, hcommand⟩
  rw [← settings_unset (bareStart name).words] at hread
  exact ⟨hread, hload, w', hrun⟩

theorem signed_of_run_specimen :
    Path.withSuffix? "m.json" ".signerpubkeyhash" ≠ some (Path.tidy "m.json") ∧
    ∃ w', (run (bareStart "m.json") : StateM World Ending).run (unsignedWorld "m.json") =
        (.finished .success, w') ∧
      ∃ data, (unsignedWorld "m.json").files.read (Path.tidy "m.json") = .ok data ∧
        HasSigned w'.files (bareOptions "m.json") Rsa.specimen.toPublicKey data := by
  have hname : Path.withSuffix? "m.json" ".signerpubkeyhash" ≠ some (Path.tidy "m.json") := by
    decide
  obtain ⟨hread, hload, w', hrun⟩ := exists_run_bareStart "m.json"
    ((Invocation.read_eq_ok_iff .sign).mpr ⟨_, _, rfl, rfl, rfl, rfl⟩) rfl fun hash _ =>
      ⟨(unsignedWorld "m.json").files.put ["work", "m.signerpubkeyhash"] (.file hash),
        [0x7b, 0x7d], ⟨"m.signerpubkeyhash", rfl, rfl⟩, rfl, by decide, fun wire =>
          ⟨_, "m.cosesign1", rfl, rfl⟩⟩
  have hsigned := signed_of_run hread hload Rsa.prime_specimenPrime1 Rsa.prime_specimenPrime2
    hname hrun
  exact ⟨hname, w', hrun, hsigned⟩

/-- Where the file has the name of the hash, it is not its two bytes that are signed. -/
theorem run_sign_hash :
    ((loadSigningKey "key.pem" : StateM World _).run (unsignedWorld "m.signerpubkeyhash")).1 =
      .ok Rsa.specimen ∧
    ∃ w', (run (bareStart "m.signerpubkeyhash") : StateM World Ending).run
        (unsignedWorld "m.signerpubkeyhash") = (.finished .success, w') ∧
      ¬ ∃ data, (unsignedWorld "m.signerpubkeyhash").files.read
          (Path.tidy "m.signerpubkeyhash") = .ok data ∧
        HasSigned w'.files (bareOptions "m.signerpubkeyhash") Rsa.specimen.toPublicKey data := by
  have hlim : (32 : Nat) < Cbor.argumentLimit := by decide
  obtain ⟨hread, hload, w', hrun⟩ := exists_run_bareStart "m.signerpubkeyhash"
    ((Invocation.read_eq_ok_iff .sign).mpr ⟨_, _, rfl, rfl, rfl, rfl⟩) rfl fun hash hlength =>
      ⟨(unsignedWorld "m.signerpubkeyhash").files.put ["work", "m.signerpubkeyhash"] (.file hash),
        hash, ⟨"m.signerpubkeyhash", rfl, rfl⟩, rfl, hlength ▸ hlim, fun wire =>
          ⟨_, "m.cosesign1", rfl, rfl⟩⟩
  refine ⟨hload, w', hrun, ?_⟩
  rintro ⟨data, hbefore, hsigned⟩
  obtain rfl : [0x7b, 0x7d] = data := Except.ok.inj hbefore
  have hsigned' := hasSigned_hash_of_run hread hload Rsa.prime_specimenPrime1
    Rsa.prime_specimenPrime2 hrun (by decide)
  have hlength := (keyHash Rsa.specimen.toPublicKey).length_eq
  rw [← HasMessage.payload_eq hsigned hsigned'] at hlength
  cases hlength

end Program

end Rs256Cose
