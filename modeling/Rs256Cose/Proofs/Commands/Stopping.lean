import Mathlib
import Rs256Cose.Proofs.Commands.Failure
import Rs256Cose.Proofs.Commands.Sign

/-!
# Signing that stops early

`SignStops o t r t'`: signing a file in the files `t` does not succeed but answers `r`, and leaves
the files `t'`. There is one case for each step that can fail, and it tells which of the files
beside the input were written before it. The file that a failing write was for may hold a front part
of what it should (`FailsBeside.cases`). The answer tells how the command ends (`Result.ofSteps`),
and a command that does not succeed stops in one of these ways (`signStops_of_sign`).
-/

namespace Rs256Cose.Commands

open Files Keys Log

variable {o : SignOptions} {w : World} {t : Tree} {key : Rsa.PrivateKey} {data wire der : Bytes}
  {f : Failure} {l : Logger}

/-! ### A signed message -/

/-- The message of a file's contents, and its signer's key in DER, or why there is none. -/
def messageOf (key : Rsa.PrivateKey) (embedKey : Bool) (data : Bytes) :
    Except Failure (Bytes × Bytes) := do
  let der ← (exportPublicKey key.toPublicKey).mapError Failure.key
  let draft ← (Draft.ofSupplied (.bytes data) (if embedKey then .bytes der else .absent)).mapError
    Failure.unsignable
  let wire ← (draft.sign key).mapError Failure.unsignable
  return (wire, der)

theorem messageOf_eq_ok_iff {embedKey : Bool} : messageOf key embedKey data = .ok (wire, der) ↔
    exportPublicKey key.toPublicKey = .ok der ∧
      (Draft.ofSupplied (.bytes data) (if embedKey then .bytes der else .absent)).bind
        (·.sign key) = .ok wire := by
  unfold messageOf
  simp only [do_eq_ok_iff, bind_eq_ok_iff, mapError_eq_ok_iff, pure, Except.pure, Except.ok.injEq,
    Prod.mk.injEq]
  refine ⟨?_, ?_⟩
  · rintro ⟨_, hexport, draft, hdraft, _, hwire, rfl, rfl⟩
    exact ⟨hexport, draft, hdraft, hwire⟩
  · rintro ⟨hexport, draft, hdraft, hwire⟩
    exact ⟨der, hexport, draft, hdraft, wire, hwire, rfl, rfl⟩

/-- Whatever keeps a message from being made is foreseen. -/
theorem isForeseen_of_messageOf {embedKey : Bool} (h : messageOf key embedKey data = .error f) :
    f.isForeseen = true := by
  unfold messageOf at h
  simp only [do_eq_error_iff, mapError_eq_error_iff] at h
  rcases h with ⟨e, -, rfl⟩ | ⟨der, -, ⟨e, -, rfl⟩ | ⟨draft, -, ⟨e, -, rfl⟩ | ⟨wire, -, ⟨⟩⟩⟩⟩
  · rfl
  · rfl
  · rfl

/-- A draft that has no digest cannot be signed, for the same reason. -/
theorem sign_eq_error_of_digest {draft : Draft} {e : EncodeError} (h : draft.digest = .error e) :
    draft.sign key = .error e := by
  unfold Draft.sign Draft.signWith
  rw [h]
  rfl

theorem of_fails_signMessage {embedKey : Bool}
    (h : Fails (signMessage l key embedKey data) w f t) :
    messageOf key embedKey data = .error f ∧ w.files = t := by
  unfold signMessage at h
  simp only [fails_bind_iff, fails_liftM_iff, gives_liftM_iff, not_fails_log, gives_log_iff,
    not_fails_pure, mapError_eq_error_iff, mapError_eq_ok_iff, false_or, and_false, exists_false,
    or_false] at h
  unfold messageOf
  simp only [do_eq_error_iff, mapError_eq_error_iff, mapError_eq_ok_iff]
  rcases h with ⟨hexport, hfiles⟩ | ⟨der, _, ⟨hexport, rfl⟩, ⟨hdraft, hfiles⟩ |
    ⟨draft, _, ⟨hdraft, rfl⟩, ⟨⟨e, hdigest, rfl⟩, hfiles⟩ |
      ⟨digest, _, ⟨hdigest, rfl⟩, _, _, rfl, hsign, hfiles⟩⟩⟩
  · exact ⟨.inl hexport, hfiles⟩
  · exact ⟨.inr ⟨der, hexport, .inl hdraft⟩, hfiles⟩
  · have hsign : draft.sign key = .error e := sign_eq_error_of_digest hdigest
    exact ⟨.inr ⟨der, hexport, .inr ⟨draft, hdraft, .inl ⟨e, hsign, rfl⟩⟩⟩, hfiles⟩
  · rw [World.files_logged] at hfiles
    exact ⟨.inr ⟨der, hexport, .inr ⟨draft, hdraft, .inl hsign⟩⟩, hfiles⟩

theorem of_gives_signMessage {embedKey : Bool} {w' : World}
    (h : Gives (signMessage l key embedKey data) w (wire, der) w') :
    messageOf key embedKey data = .ok (wire, der) ∧ w.files = w'.files := by
  obtain ⟨hexport, hwire, hfiles⟩ := (leaves_signMessage_iff l).mp ⟨w', h, rfl⟩
  exact ⟨messageOf_eq_ok_iff.mpr ⟨hexport, hwire⟩, hfiles⟩

section

variable [KeyLibrary]

/-- How the making of a signed message stops, and the files that it leaves. -/
inductive MessageStops (o : SignOptions) (key : Rsa.PrivateKey) (data : Bytes) (t : Tree) :
    Failure → Tree → Prop
  | unmade {f : Failure} (hmade : messageOf key o.embedKey data = .error f) :
      MessageStops o key data t f t
  | unwritten {wire der : Bytes} {f : Failure} {t' : Tree}
      (hmade : messageOf key o.embedKey data = .ok (wire, der))
      (hfails : FailsBeside t o.input ".cosesign1" wire f t') : MessageStops o key data t f t'
  | unverified {wire der : Bytes} {e : VerifyError} {t' : Tree}
      (hmade : messageOf key o.embedKey data = .ok (wire, der))
      (hwrites : Path.WritesBeside t o.input ".cosesign1" wire t') (hverify : o.verify = true)
      (hcheck : verify wire (some der) = .error e) : MessageStops o key data t (.ofVerifyError e) t'

theorem messageStops_of_fails (h : Fails (signAsMessage l o key data) w f t) :
    MessageStops o key data w.files f t := by
  unfold signAsMessage at h
  rcases fails_bind_iff.mp h with h | ⟨⟨wire, der⟩, w₁, hmade, h⟩
  · obtain ⟨hmade, rfl⟩ := of_fails_signMessage h
    exact .unmade hmade
  obtain ⟨hmade, hfiles⟩ := of_gives_signMessage hmade
  rw [hfiles]
  rcases of_fails_writeBeside h with hfails | ⟨w₂, hwrites, h⟩
  · exact .unwritten hmade hfails
  -- what is left is the check, which writes nothing
  split_ifs at h with hverify
  · rw [fails_bind_iff, fails_liftM_iff, mapError_eq_error_iff] at h
    rcases h with ⟨⟨e, hcheck, rfl⟩, rfl⟩ | ⟨_, _, -, h⟩
    · exact .unverified hmade hwrites hverify hcheck
    · exact absurd h not_fails_log_pure
  · exact absurd h not_fails_pure

end

/-! ### A bare signature -/

/-- The second tree is the first with the signature of the data and the public key beside the
input, checked or not. -/
def WritesPair (o : SignOptions) (key : Rsa.PrivateKey) (data : Bytes) (t t' : Tree) : Prop :=
  ∃ t₁, Path.WritesBeside t o.input ".sig" (key.sign (sha256 data)).bytes t₁ ∧
    Path.WritesBeside t₁ o.input ".pub" (encodePublicPem key.toPublicKey) t'

section

variable [KeyLibrary]

/-- How the making of a bare signature stops, and the files that it leaves. A signature that does
not verify is no failure of a step: the command itself answers so. -/
inductive SignatureStops (o : SignOptions) (key : Rsa.PrivateKey) (data : Bytes) (t : Tree) :
    Except Failure Result → Tree → Prop
  | unwritten {f : Failure} {t' : Tree}
      (hfails : FailsBeside t o.input ".sig" (key.sign (sha256 data)).bytes f t') :
      SignatureStops o key data t (.error f) t'
  | keyUnwritten {f : Failure} {t₁ t' : Tree}
      (hwrites : Path.WritesBeside t o.input ".sig" (key.sign (sha256 data)).bytes t₁)
      (hfails : FailsBeside t₁ o.input ".pub" (encodePublicPem key.toPublicKey) f t') :
      SignatureStops o key data t (.error f) t'
  | keyUnexported {e : KeyError} {t' : Tree} (hwrites : WritesPair o key data t t')
      (hverify : o.verify = true) (hexport : exportPublicKey key.toPublicKey = .error e) :
      SignatureStops o key data t (.error (.key e)) t'
  | unchecked {der : Bytes} {e : VerifyError} {t' : Tree} (hwrites : WritesPair o key data t t')
      (hverify : o.verify = true) (hexport : exportPublicKey key.toPublicKey = .ok der)
      (hcheck : verifyDigest der (sha256 data).bytes (key.sign (sha256 data)).bytes = .error e) :
      SignatureStops o key data t (.error (.ofVerifyError e)) t'
  | unverified {der : Bytes} {t' : Tree} (hwrites : WritesPair o key data t t')
      (hverify : o.verify = true) (hexport : exportPublicKey key.toPublicKey = .ok der)
      (hcheck : verifyDigest der (sha256 data).bytes (key.sign (sha256 data)).bytes = .ok false) :
      SignatureStops o key data t (.ok .failure) t'

theorem signatureStops_of_fails (h : Fails (signRaw l o key data) w f t) :
    SignatureStops o key data w.files (.error f) t := by
  unfold signRaw at h
  rcases of_fails_writeBeside h with hfails | ⟨w₁, hsignature, h⟩
  · exact .unwritten hfails
  rcases of_fails_writeBeside h with hfails | ⟨w₂, hkey, h⟩
  · exact .keyUnwritten hsignature hfails
  have hpair : WritesPair o key data w.files w₂.files := ⟨w₁.files, hsignature, hkey⟩
  split_ifs at h with hverify
  · simp only [fails_bind_iff, fails_liftM_iff, gives_liftM_iff, mapError_eq_error_iff,
      mapError_eq_ok_iff] at h
    rcases h with ⟨⟨e, hexport, rfl⟩, rfl⟩ | ⟨der, _, ⟨hexport, rfl⟩, h⟩
    · exact .keyUnexported hpair hverify hexport
    rcases h with ⟨⟨e, hcheck, rfl⟩, rfl⟩ | ⟨accepted, _, -, h⟩
    · exact .unchecked hpair hverify hexport hcheck
    · split_ifs at h
      · exact absurd h not_fails_log_pure
      · exact absurd h not_fails_log_pure
  · exact absurd h not_fails_pure

theorem signatureStops_of_leaves {result : Result}
    (h : Leaves (signRaw l o key data) w result t) (hresult : result ≠ .success) :
    SignatureStops o key data w.files (.ok result) t := by
  unfold signRaw at h
  obtain ⟨w₁, hsignature, h⟩ := of_leaves_writeBeside h
  obtain ⟨w₂, hkey, h⟩ := of_leaves_writeBeside h
  have hpair : WritesPair o key data w.files w₂.files := ⟨w₁.files, hsignature, hkey⟩
  split_ifs at h with hverify
  · simp only [leaves_bind_iff, gives_liftM_iff, mapError_eq_ok_iff] at h
    obtain ⟨der, _, ⟨hexport, rfl⟩, accepted, _, ⟨hcheck, rfl⟩, h⟩ := h
    cases accepted with
    | true => exact absurd (leaves_log_pure_iff.mp h).1.symm hresult
    | false =>
      obtain ⟨rfl, rfl⟩ := leaves_log_pure_iff.mp h
      exact .unverified hpair hverify hexport hcheck
  · exact absurd (leaves_pure_iff.mp h).1.symm hresult

end

/-! ### The command -/

section

variable [KeyLibrary]

/-- The steps of signing once the key is loaded and its hash is logged. -/
def signUnder (l : Logger) (o : SignOptions) (key : Rsa.PrivateKey) :
    ExceptT Failure (StateM World) Result := do
  writeBeside l o.input ".signerpubkeyhash" "Signer's public key hash"
    (keyHash key.toPublicKey).bytes
  let data ← readFile o.input
  match o.format with
  | .cosesign1 => signAsMessage l o key data
  | .raw => signRaw l o key data

/-- The steps of signing, before a failure among them is dealt with. -/
def signSteps (l : Logger) (o : SignOptions) : ExceptT Failure (StateM World) Result := do
  let key ← (← loadSigningKey o.keyPath).mapError Failure.ofLoadError
  log l .info s!"Signer public key hash: {(keyHash key.toPublicKey).bytes.hex}"
  signUnder l o key

theorem sign_eq (l : Logger) (o : SignOptions) : sign l o = attempt l "sign" (signSteps l o) := rfl

/-- Only the key is looked at before the first file is written. -/
theorem runIn_signSteps (l : Logger) (o : SignOptions) (w : World) :
    runIn (signSteps l o) w = match signingKeyOf o.keyPath (w.files.read o.keyPath) with
      | .error e => (.error (.ofLoadError e), w)
      | .ok key => runIn (signUnder l o key)
          (w.logged l .info s!"Signer public key hash: {(keyHash key.toPublicKey).bytes.hex}") := by
  have hload : Gives (loadSigningKey o.keyPath) w
      (signingKeyOf o.keyPath (w.files.read o.keyPath)) w :=
    gives_loadSigningKey_iff.mpr ⟨rfl, rfl⟩
  unfold signSteps
  rw [runIn_bind, hload]
  cases signingKeyOf o.keyPath (w.files.read o.keyPath) with
  | error e => rfl
  | ok key =>
    change runIn (do log l .info _; signUnder l o key) w = _
    rw [runIn_bind, runIn_log]

/-- The key was loaded and its hash was written beside the input. -/
structure Records (o : SignOptions) (t : Tree) (key : Rsa.PrivateKey) (t' : Tree) : Prop where
  load : signingKeyOf o.keyPath (t.read o.keyPath) = .ok key
  hash : Path.WritesBeside t o.input ".signerpubkeyhash" (keyHash key.toPublicKey).bytes t'

/-- How signing stops, and the files that it leaves. -/
inductive SignStops (o : SignOptions) (t : Tree) : Except Failure Result → Tree → Prop
  | unloaded {e : LoadError} (hload : signingKeyOf o.keyPath (t.read o.keyPath) = .error e) :
      SignStops o t (.error (.ofLoadError e)) t
  | unrecorded {key : Rsa.PrivateKey} {f : Failure} {t' : Tree}
      (hload : signingKeyOf o.keyPath (t.read o.keyPath) = .ok key)
      (hfails : FailsBeside t o.input ".signerpubkeyhash" (keyHash key.toPublicKey).bytes f t') :
      SignStops o t (.error f) t'
  | unread {key : Rsa.PrivateKey} {e : FileError} {t' : Tree} (hrecords : Records o t key t')
      (hread : t'.read (Path.tidy o.input) = .error e) : SignStops o t (.error (.file e)) t'
  | asMessage {key : Rsa.PrivateKey} {data : Bytes} {f : Failure} {t₁ t' : Tree}
      (hrecords : Records o t key t₁) (hread : t₁.read (Path.tidy o.input) = .ok data)
      (hformat : o.format = .cosesign1) (hstops : MessageStops o key data t₁ f t') :
      SignStops o t (.error f) t'
  | asSignature {key : Rsa.PrivateKey} {data : Bytes} {r : Except Failure Result} {t₁ t' : Tree}
      (hrecords : Records o t key t₁) (hread : t₁.read (Path.tidy o.input) = .ok data)
      (hformat : o.format = .raw) (hstops : SignatureStops o key data t₁ r t') :
      SignStops o t r t'

/-- Making a message has no answer but success. -/
theorem yields_signAsMessage :
    Yields (fun result _ => result = .success) (signAsMessage l o key data) := by
  unfold signAsMessage
  refine yields_bind fun _ => yields_bind fun _ => ?_
  split_ifs
  · exact yields_bind fun _ => yields_bind fun _ => yields_pure fun _ => rfl
  · exact yields_pure fun _ => rfl

section

variable (hload : signingKeyOf o.keyPath (w.files.read o.keyPath) = .ok key)

include hload

theorem signStops_of_fails_signUnder (h : Fails (signUnder l o key) w f t) :
    SignStops o w.files (.error f) t := by
  rcases of_fails_writeBeside h with hfails | ⟨w₁, hhash, h⟩
  · exact .unrecorded hload hfails
  have hrecords : Records o w.files key w₁.files := ⟨hload, hhash⟩
  rcases fails_bind_iff.mp h with h | ⟨data, _, hdata, h⟩
  · obtain ⟨e, hread, rfl, rfl⟩ := fails_readFile_iff.mp h
    exact .unread hrecords hread
  obtain ⟨hread, rfl⟩ := gives_readFile_iff.mp hdata
  cases hformat : o.format with
  | cosesign1 =>
    rw [hformat] at h
    exact .asMessage hrecords hread hformat (messageStops_of_fails h)
  | raw =>
    rw [hformat] at h
    exact .asSignature hrecords hread hformat (signatureStops_of_fails h)

theorem signStops_of_leaves_signUnder {result : Result}
    (h : Leaves (signUnder l o key) w result t) (hresult : result ≠ .success) :
    SignStops o w.files (.ok result) t := by
  obtain ⟨w₁, hhash, h⟩ := of_leaves_writeBeside h
  have hrecords : Records o w.files key w₁.files := ⟨hload, hhash⟩
  obtain ⟨data, _, hdata, h⟩ := leaves_bind_iff.mp h
  obtain ⟨hread, rfl⟩ := gives_readFile_iff.mp hdata
  cases hformat : o.format with
  | cosesign1 =>
    rw [hformat] at h
    obtain ⟨w', hgives, -⟩ := h
    exact absurd (yields_signAsMessage _ _ _ hgives) hresult
  | raw =>
    rw [hformat] at h
    exact .asSignature hrecords hread hformat (signatureStops_of_leaves h hresult)

end

/-- The steps of signing succeed or stop in one of these ways. -/
theorem signStops_of_runIn {r : Except Failure Result} {w' : World}
    (h : runIn (signSteps l o) w = (r, w')) (hr : r ≠ .ok .success) :
    SignStops o w.files r w'.files := by
  rw [runIn_signSteps] at h
  cases hload : signingKeyOf o.keyPath (w.files.read o.keyPath) with
  | error e =>
    rw [hload] at h
    cases h
    exact .unloaded hload
  | ok key =>
    rw [hload] at h
    have hfiles := w.files_logged l .info
      s!"Signer public key hash: {(keyHash key.toPublicKey).bytes.hex}"
    rw [← hfiles] at hload ⊢
    cases r with
    | error f =>
      exact signStops_of_fails_signUnder hload ⟨congrArg Prod.fst h, congrArg (·.2.files) h⟩
    | ok result =>
      exact signStops_of_leaves_signUnder hload ⟨w', h, rfl⟩ fun hsuccess => hr (hsuccess ▸ rfl)

/-- Where the hash cannot be written, signing does stop. -/
theorem fails_of_unrecorded (hload : signingKeyOf o.keyPath (w.files.read o.keyPath) = .ok key)
    (hfails : FailsBeside w.files o.input ".signerpubkeyhash" (keyHash key.toPublicKey).bytes f t) :
    Fails (signSteps l o) w f t := by
  unfold Fails
  rw [runIn_signSteps, hload]
  refine fails_bind_iff.mpr (.inl (fails_writeBeside_iff.mpr ?_))
  rwa [World.files_logged]

/-- Where the key does not load, signing does stop. -/
theorem fails_of_unloaded {e : LoadError}
    (hload : signingKeyOf o.keyPath (w.files.read o.keyPath) = .error e) :
    Fails (signSteps l o) w (.ofLoadError e) w.files := by
  unfold Fails
  rw [runIn_signSteps, hload]
  exact ⟨rfl, rfl⟩

/-- Where the input cannot be read after the hash was written, signing does stop. -/
theorem fails_of_unread {e : FileError} (hrecords : Records o w.files key t)
    (hread : t.read (Path.tidy o.input) = .error e) : Fails (signSteps l o) w (.file e) t := by
  unfold Fails
  rw [runIn_signSteps, hrecords.load]
  have hhash := hrecords.hash
  rw [← w.files_logged l .info
    s!"Signer public key hash: {(keyHash key.toPublicKey).bytes.hex}"] at hhash
  obtain ⟨w₁, hwritten, rfl⟩ :=
    (leaves_writeBeside_iff (u := ()) l "Signer's public key hash").mpr hhash
  refine fails_bind_iff.mpr (.inr ⟨(), w₁, hwritten, fails_bind_iff.mpr (.inl ?_)⟩)
  exact fails_readFile_iff.mpr ⟨e, hread, rfl, rfl⟩

/-- Signing that does not end in success stops in one of these ways, and ends as its steps say. -/
theorem signStops_of_sign {result : Result} {w' : World}
    (h : (sign l o : StateM World Result).run w = (result, w')) (hresult : result ≠ .success) :
    ∃ r, SignStops o w.files r w'.files ∧ result = .ofSteps r := by
  have hends := attempt_fst l "sign" (signSteps l o) w
  have hfiles := files_attempt l "sign" (signSteps l o) w
  rw [← sign_eq, h] at hends hfiles
  refine ⟨_, ?_, hends⟩
  rw [hfiles]
  refine signStops_of_runIn (l := l) rfl fun hsuccess => hresult ?_
  exact hends.trans (congrArg Result.ofSteps hsuccess)

end

end Rs256Cose.Commands
