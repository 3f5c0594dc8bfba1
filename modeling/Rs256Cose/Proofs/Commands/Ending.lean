import Mathlib
import Rs256Cose.Proofs.Commands.Frame
import Rs256Cose.Proofs.Keys.Length
import Rs256Cose.Proofs.Log
import Rs256Cose.Proofs.Message.Rejection

/-!
# How runs end

A run is meant to end in success, with an error line logged last, or with a refusal of the command
line (`Program.EndsProperly`). `Commands.Aborts` lists what no command foresees: a path without a
name to write beside, a path that cannot be used, and a key that the library does not support, the
one that signs or the one that decides. A run aborts in these cases and in no other
(`runCommand_aborted_iff`), so it ends properly but for them and a level that is none
(`Program.endsProperly_iff`).
-/

namespace Rs256Cose

open Files Keys Log CommandLine

namespace Commands

variable {w w' : World} {t t' : Tree} {l : Logger} {f : Failure}

/-! ### What is foreseen -/

theorem isForeseen_file_eq_false_iff {e : FileError} :
    (Failure.file e).isForeseen = false ↔ ∃ complaint, e = .unusable complaint := by
  cases e <;> simp [Failure.isForeseen]

theorem complaint?_of_read {path : String} {data : Bytes} (h : t.read path = .ok data) :
    t.complaint? path = none := by
  obtain ⟨place, hlocate, -⟩ := Tree.read_eq_ok_iff.mp h
  exact (Tree.locate_eq_ok_iff.mp hlocate).1

/-- A file cannot be written beside a path for want of a name or since its path cannot be used, as
far as that is not foreseen, and then nothing happens. -/
theorem failsBeside_unforeseen_iff {path suffix : String} {contents : Bytes} :
    FailsBeside t path suffix contents f t' ∧ f.isForeseen = false ↔
      ((Path.properNames path.toList = [] ∧ f = .unnamed (Path.tidy path)) ∨
        ∃ target complaint, Path.withSuffix? path suffix = some target ∧
          t.complaint? target = some complaint ∧ f = .file (.unusable complaint)) ∧ t' = t := by
  unfold FailsBeside
  rw [Path.withSuffix?_eq_none_iff]
  refine ⟨?_, ?_⟩
  · rintro ⟨⟨hnone, rfl, rfl⟩ | ⟨target, e, htarget, hstore, rfl⟩, hunforeseen⟩
    · exact ⟨.inl ⟨hnone, rfl⟩, rfl⟩
    · obtain ⟨complaint, rfl⟩ := isForeseen_file_eq_false_iff.mp hunforeseen
      obtain ⟨hcomplaint, rfl⟩ := Tree.store_eq_unusable_iff.mp hstore
      exact ⟨.inr ⟨target, complaint, htarget, hcomplaint, rfl⟩, rfl⟩
  · rintro ⟨⟨hnone, rfl⟩ | ⟨target, complaint, htarget, hcomplaint, rfl⟩, rfl⟩
    · exact ⟨.inl ⟨hnone, rfl, rfl⟩, rfl⟩
    · have hstore : t'.store target contents = (.error (.unusable complaint), t') :=
        Tree.store_eq_unusable_iff.mpr ⟨hcomplaint, rfl⟩
      exact ⟨.inr ⟨target, _, htarget, hstore, rfl⟩, rfl⟩

/-- Once a path can be used in its tidy form and has a name, every failure of a write beside it is
foreseen. -/
theorem isForeseen_of_failsBeside {path suffix : String} {contents : Bytes}
    (hsuffix : ∀ c ∈ suffix.toList, c ≠ '\x00' ∧ c.toNat < 128)
    (hnames : Path.properNames path.toList ≠ []) (hpath : t.complaint? (Path.tidy path) = none)
    (h : FailsBeside t path suffix contents f t') : f.isForeseen = true := by
  by_contra hunforeseen
  rw [Bool.not_eq_true] at hunforeseen
  rcases (failsBeside_unforeseen_iff.mp ⟨h, hunforeseen⟩).1 with
    ⟨hnone, -⟩ | ⟨target, complaint, htarget, hcomplaint, -⟩
  · exact hnames hnone
  · rw [Path.complaint?_withSuffix hsuffix htarget hpath] at hcomplaint
    cases hcomplaint

/-- An exported key is one that the library supports. -/
theorem not_holdsUnsupportedKey_of_exportPublicKey [KeyLibrary] {key : Rsa.PublicKey} {der : Bytes}
    (hsize : key.size = requiredBits) (hexport : exportPublicKey key = .ok der)
    (description : String) : ¬ HoldsUnsupportedKey der description := by
  obtain ⟨hlow, -⟩ := modulus_bounds hsize
  have hexponent := (exportPublicKey_isOk_iff hsize).mp ⟨der, hexport⟩
  have hlt : key.exponent < key.modulus :=
    lt_of_lt_of_le (lt_of_lt_of_le hexponent (by decide)) hlow
  obtain ⟨rfl, -⟩ := exportPublicKey_eq_ok_iff.mp hexport
  rw [HoldsUnsupportedKey, not_pemOpening_isPrefixOf_encodePublicInfo, if_neg Bool.false_ne_true]
  rintro ⟨-, oid, parameters, unused, bytes, hparts, hrsa, -⟩
  rw [readPublicInfoParts_encodePublicInfo hlt hsize] at hparts
  cases hparts
  exact hrsa rfl

theorem not_holdsUnsupportedKey_nil [KeyLibrary] (description : String) :
    ¬ HoldsUnsupportedKey [] description := by
  have hbare : pemOpening.isPrefixOf (([] : Bytes).dropWhile Text.Pem.isBlank) = false := by decide
  have hnone : readPublicInfoParts [] = none := by decide
  rw [HoldsUnsupportedKey, hbare, if_neg Bool.false_ne_true]
  rintro ⟨-, oid, parameters, unused, bytes, hparts, -⟩
  rw [hnone] at hparts
  cases hparts

section

variable [KeyLibrary]

/-- Verification is kept from a foreseen end only by a key that is not supported, if it decides. -/
theorem verify_unforeseen_iff {data : Bytes} {trusted : Option Bytes} :
    (∃ e, verify data trusted = .error e ∧ .ofVerifyError e = f) ∧ f.isForeseen = false ↔
      ∃ m description, Message.decode data = .ok m ∧ Permits m.key.der trusted ∧
        HoldsUnsupportedKey (trusted.getD m.key.der) description ∧
        f = .unsupported description := by
  refine ⟨?_, ?_⟩
  · rintro ⟨⟨e, hverify, rfl⟩, hunforeseen⟩
    rcases verify_error_cases hverify with ⟨e', rfl, hne⟩ | ⟨rejection, rfl⟩ | ⟨description, rfl⟩
    · simp [Failure.ofVerifyError, Failure.isForeseen, hne] at hunforeseen
    · cases hunforeseen
    · obtain ⟨m, hdecode, hpermits, hkey⟩ := verify_eq_unsupported_iff.mp hverify
      exact ⟨m, description, hdecode, hpermits, hkey, rfl⟩
  · rintro ⟨m, description, hdecode, hpermits, hkey, rfl⟩
    exact ⟨⟨_, verify_eq_unsupported_iff.mpr ⟨m, hdecode, hpermits, hkey⟩, rfl⟩, rfl⟩

/-- Of the keys that can be told from a file, only one that is not supported is not foreseen. -/
theorem signingKeyOf_unforeseen_iff (path : String) {answer : Except FileError Bytes} :
    (∃ e, signingKeyOf path answer = .error e ∧ .ofLoadError e = f) ∧ f.isForeseen = false ↔
      ∃ text description, answer = .ok text ∧
        readPrivatePem text = .error (.unsupported description) ∧ f = .unsupported description := by
  cases answer with
  | error e =>
    refine iff_of_false ?_ nofun
    rintro ⟨⟨e', herror, rfl⟩, hunforeseen⟩
    obtain rfl := Except.error.inj herror
    cases e <;> cases hunforeseen
  | ok text =>
    simp only [signingKeyOf, mapError_eq_error_iff, Except.ok.injEq]
    refine ⟨?_, ?_⟩
    · rintro ⟨⟨_, ⟨e, hparse, rfl⟩, rfl⟩, hunforeseen⟩
      cases e with
      | refused e => cases hunforeseen
      | unsupported description =>
        exact ⟨text, description, rfl, parsePrivateKey_eq_unsupported_iff.mp hparse, rfl⟩
    · rintro ⟨_, description, rfl, hread, rfl⟩
      exact ⟨⟨_, ⟨_, parsePrivateKey_eq_unsupported_iff.mpr hread, rfl⟩, rfl⟩, rfl⟩

end

/-! ### Looking at a message -/

theorem fails_readFile_unforeseen_iff {path : String} :
    Fails (readFile path) w f t ∧ f.isForeseen = false ↔
      (∃ complaint, w.files.complaint? (Path.tidy path) = some complaint ∧
        f = .file (.unusable complaint)) ∧ w.files = t := by
  simp only [fails_readFile_iff, ← Tree.read_eq_unusable_iff]
  refine ⟨?_, ?_⟩
  · rintro ⟨⟨e, hread, rfl, hfiles⟩, hunforeseen⟩
    obtain ⟨complaint, rfl⟩ := isForeseen_file_eq_false_iff.mp hunforeseen
    exact ⟨⟨complaint, hread, rfl⟩, hfiles⟩
  · rintro ⟨⟨complaint, hread, rfl⟩, hfiles⟩
    exact ⟨⟨_, hread, rfl, hfiles⟩, rfl⟩

section

variable [KeyLibrary]

/-- What keeps a trusted key from being read, as far as that is not foreseen. -/
def Untrustable (t : Tree) (path : String) (f : Failure) : Prop :=
  (∃ complaint, t.complaint? (Path.tidy path) = some complaint ∧
      f = .file (.unusable complaint)) ∨
    ∃ text description, t.read (Path.tidy path) = .ok text ∧
      HoldsUnsupportedKey text description ∧ f = .unsupported description

theorem fails_readTrustedKey_unforeseen_iff {path : String} :
    Fails (readTrustedKey path) w f t ∧ f.isForeseen = false ↔
      Untrustable w.files path f ∧ w.files = t := by
  unfold readTrustedKey Untrustable
  rw [fails_bind_iff, or_and_right, fails_readFile_unforeseen_iff, or_and_right]
  refine or_congr_right ?_
  simp only [gives_readFile_iff, fails_bind_iff, fails_liftM_iff, gives_liftM_iff,
    mapError_eq_error_iff, mapError_eq_ok_iff, ← loadPublicKey_eq_unsupported_iff]
  refine ⟨?_, ?_⟩
  · rintro ⟨⟨text, _, ⟨hread, rfl⟩, ⟨⟨e, hload, rfl⟩, hfiles⟩ | ⟨key, _, -, ⟨e, -, rfl⟩, -⟩⟩,
      hunforeseen⟩
    · cases e with
      | refused e => cases hunforeseen
      | unsupported description => exact ⟨⟨text, description, hread, hload, rfl⟩, hfiles⟩
    · cases hunforeseen
  · rintro ⟨⟨text, description, hread, hload, rfl⟩, hfiles⟩
    exact ⟨⟨text, w, ⟨hread, rfl⟩, .inl ⟨⟨_, hload, rfl⟩, hfiles⟩⟩, rfl⟩

theorem fails_readTrusted_unforeseen_iff {pub : Option String} :
    Fails (readTrusted pub) w f t ∧ f.isForeseen = false ↔
      ∃ path, pub = some path ∧ path ≠ "" ∧ Untrustable w.files path f ∧ w.files = t := by
  cases pub with
  | none => simp [readTrusted, not_fails_pure]
  | some path =>
    rw [readTrusted]
    split_ifs with hempty
    · simp [not_fails_pure, hempty]
    · rw [fails_map_iff, fails_readTrustedKey_unforeseen_iff]
      simp [hempty]

/-! ### What aborts a run -/

/-- What no command foresees, by the files that it finds and what it is told. -/
inductive Aborts (t : Tree) : Invocation → Failure → Prop
  | signUnsupported {o : SignOptions} {text : Bytes} {description : String}
      (hread : t.read o.keyPath = .ok text)
      (hkey : readPrivatePem text = .error (.unsupported description)) :
      Aborts t (.sign o) (.unsupported description)
  /-- There is a key, and nothing to write its hash beside. -/
  | signUnnamed {o : SignOptions} {key : Rsa.PrivateKey}
      (hload : signingKeyOf o.keyPath (t.read o.keyPath) = .ok key)
      (hnames : Path.properNames o.input.toList = []) :
      Aborts t (.sign o) (.unnamed (Path.tidy o.input))
  | signHashUnusable {o : SignOptions} {key : Rsa.PrivateKey} {target complaint : String}
      (hload : signingKeyOf o.keyPath (t.read o.keyPath) = .ok key)
      (htarget : Path.withSuffix? o.input ".signerpubkeyhash" = some target)
      (hcomplaint : t.complaint? target = some complaint) :
      Aborts t (.sign o) (.file (.unusable complaint))
  /-- What cannot be used is in the suffix that the path of the hash lacks. -/
  | signInputUnusable {o : SignOptions} {key : Rsa.PrivateKey} {complaint : String} {t' : Tree}
      (hrecords : Records o t key t')
      (hcomplaint : t.complaint? (Path.tidy o.input) = some complaint) :
      Aborts t (.sign o) (.file (.unusable complaint))
  | verifyInputUnusable {o : VerifyOptions} {complaint : String}
      (hcomplaint : t.complaint? (Path.tidy o.input) = some complaint) :
      Aborts t (.verify o) (.file (.unusable complaint))
  | verifyTrusted {o : VerifyOptions} {data : Bytes} {path : String} {f : Failure}
      (hread : t.read (Path.tidy o.input) = .ok data) (htrusted : o.trusted = some path)
      (hne : path ≠ "") (huntrustable : Untrustable t path f) : Aborts t (.verify o) f
  | verifyEmbedded {o : VerifyOptions} {data : Bytes} {m : Message} {description : String}
      (hread : t.read (Path.tidy o.input) = .ok data) (htrusted : Trusts t o.trusted none)
      (hdecode : Message.decode data = .ok m)
      (hkey : HoldsUnsupportedKey m.key.der description) :
      Aborts t (.verify o) (.unsupported description)
  | inspectInputUnusable {o : InspectOptions} {complaint : String}
      (hcomplaint : t.complaint? (Path.tidy o.input) = some complaint) :
      Aborts t (.inspect o) (.file (.unusable complaint))

/-- A key that was accepted as trusted is supported in the form that it is exported in. -/
theorem not_holdsUnsupportedKey_of_trusts {pub : Option String} {der : Bytes}
    (h : Trusts t pub (some der)) (description : String) :
    ¬ HoldsUnsupportedKey der description := by
  cases pub with
  | none => cases h
  | some path =>
    rw [Trusts] at h
    split_ifs at h
    obtain ⟨_, ⟨text, key, -, -, hsize, hexport⟩, hder⟩ := h
    cases hder
    exact not_holdsUnsupportedKey_of_exportPublicKey hsize hexport description

theorem fails_verify_unforeseen_iff {o : VerifyOptions} :
    Fails (steps l (.verify o)) w f t ∧ f.isForeseen = false ↔
      Aborts w.files (.verify o) f ∧ w.files = t := by
  unfold steps
  simp only [fails_bind_iff, gives_readFile_iff, gives_readTrusted_iff, fails_liftM_iff,
    not_fails_print, not_fails_pure, mapError_eq_error_iff, and_false, or_false, exists_false]
  refine ⟨?_, ?_⟩
  · rintro ⟨h | ⟨data, _, ⟨hread, rfl⟩, h | ⟨trusted, _, ⟨htrusts, rfl⟩, hverify, hfiles⟩⟩,
      hunforeseen⟩
    · obtain ⟨⟨complaint, hcomplaint, rfl⟩, hfiles⟩ :=
        fails_readFile_unforeseen_iff.mp ⟨h, hunforeseen⟩
      exact ⟨.verifyInputUnusable hcomplaint, hfiles⟩
    · obtain ⟨path, htrusted, hne, huntrustable, hfiles⟩ :=
        fails_readTrusted_unforeseen_iff.mp ⟨h, hunforeseen⟩
      exact ⟨.verifyTrusted hread htrusted hne huntrustable, hfiles⟩
    · obtain ⟨m, description, hdecode, -, hkey, rfl⟩ :=
        verify_unforeseen_iff.mp ⟨hverify, hunforeseen⟩
      cases trusted with
      | none => exact ⟨.verifyEmbedded hread htrusts hdecode hkey, hfiles⟩
      | some der => exact absurd hkey (not_holdsUnsupportedKey_of_trusts htrusts description)
  · rintro ⟨haborts, hfiles⟩
    cases haborts with
    | verifyInputUnusable hcomplaint =>
      obtain ⟨h, hunforeseen⟩ :=
        fails_readFile_unforeseen_iff.mpr ⟨⟨_, hcomplaint, rfl⟩, hfiles⟩
      exact ⟨.inl h, hunforeseen⟩
    | verifyTrusted hread htrusted hne huntrustable =>
      obtain ⟨h, hunforeseen⟩ :=
        fails_readTrusted_unforeseen_iff.mpr ⟨_, htrusted, hne, huntrustable, hfiles⟩
      exact ⟨.inr ⟨_, w, ⟨hread, rfl⟩, .inl h⟩, hunforeseen⟩
    | @verifyEmbedded _ _ m description hread htrusts hdecode hkey =>
      have hpermits : Permits m.key.der none := fun hnil =>
        not_holdsUnsupportedKey_nil description (hnil ▸ hkey)
      obtain ⟨hverify, hunforeseen⟩ :=
        verify_unforeseen_iff.mpr ⟨m, description, hdecode, hpermits, hkey, rfl⟩
      exact ⟨.inr ⟨_, w, ⟨hread, rfl⟩, .inr ⟨none, w, ⟨htrusts, rfl⟩, hverify, hfiles⟩⟩,
        hunforeseen⟩

theorem fails_inspect_unforeseen_iff {o : InspectOptions} :
    Fails (steps l (.inspect o)) w f t ∧ f.isForeseen = false ↔
      Aborts w.files (.inspect o) f ∧ w.files = t := by
  unfold steps
  simp only [fails_bind_iff, gives_readFile_iff, fails_liftM_iff, not_fails_print, not_fails_pure,
    mapError_eq_error_iff, and_false, or_false, exists_false]
  refine ⟨?_, ?_⟩
  · rintro ⟨h | ⟨data, _, -, ⟨e, hdecode, rfl⟩, -⟩, hunforeseen⟩
    · obtain ⟨⟨complaint, hcomplaint, rfl⟩, hfiles⟩ :=
        fails_readFile_unforeseen_iff.mp ⟨h, hunforeseen⟩
      exact ⟨.inspectInputUnusable hcomplaint, hfiles⟩
    · have hne : e ≠ .beforeStart := by
        rintro rfl
        exact Message.decode_ne_beforeStart data hdecode
      simp [Failure.isForeseen, hne] at hunforeseen
  · rintro ⟨haborts, hfiles⟩
    cases haborts with
    | inspectInputUnusable hcomplaint =>
      obtain ⟨h, hunforeseen⟩ :=
        fails_readFile_unforeseen_iff.mpr ⟨⟨_, hcomplaint, rfl⟩, hfiles⟩
      exact ⟨.inl h, hunforeseen⟩

/-! ### Signing -/

theorem Records.size_eq {o : SignOptions} {key : Rsa.PrivateKey} (h : Records o t key t') :
    key.toPublicKey.size = requiredBits := by
  have hload := h.load
  cases hread : t.read o.keyPath with
  | error e =>
    rw [hread] at hload
    cases hload
  | ok text =>
    rw [hread] at hload
    exact (parsePrivateKey_eq_ok_iff.mp (mapError_eq_ok_iff.mp hload)).2

theorem Records.names_ne_nil {o : SignOptions} {key : Rsa.PrivateKey} (h : Records o t key t') :
    Path.properNames o.input.toList ≠ [] := by
  intro hnames
  obtain ⟨target, htarget, -⟩ := h.hash
  rw [Path.withSuffix?_eq_none_iff.mpr hnames] at htarget
  cases htarget

/-- Once the hash was written and the input read, whatever keeps a message from being made,
written or accepted is foreseen. -/
theorem MessageStops.isForeseen {o : SignOptions} {key : Rsa.PrivateKey} {data : Bytes}
    (hsize : key.toPublicKey.size = requiredBits)
    (hnames : Path.properNames o.input.toList ≠ [])
    (hinput : t.complaint? (Path.tidy o.input) = none) (h : MessageStops o key data t f t') :
    f.isForeseen = true := by
  cases h with
  | unmade hmade => exact isForeseen_of_messageOf hmade
  | unwritten _ hfails => exact isForeseen_of_failsBeside (by simp) hnames hinput hfails
  | unverified hmade _ _ hcheck =>
    by_contra hunforeseen
    rw [Bool.not_eq_true] at hunforeseen
    obtain ⟨m, description, -, -, hkey, -⟩ :=
      verify_unforeseen_iff.mp ⟨⟨_, hcheck, rfl⟩, hunforeseen⟩
    have hexport := (messageOf_eq_ok_iff.mp hmade).1
    exact not_holdsUnsupportedKey_of_exportPublicKey hsize hexport description hkey

theorem SignatureStops.isForeseen {o : SignOptions} {key : Rsa.PrivateKey} {data : Bytes}
    (hsize : key.toPublicKey.size = requiredBits)
    (hnames : Path.properNames o.input.toList ≠ [])
    (hinput : t.complaint? (Path.tidy o.input) = none)
    (h : SignatureStops o key data t (.error f) t') : f.isForeseen = true := by
  cases h with
  | unwritten hfails => exact isForeseen_of_failsBeside (by simp) hnames hinput hfails
  | keyUnwritten hwrites hfails =>
    rw [← hwrites.complaint?_eq] at hinput
    exact isForeseen_of_failsBeside (by simp) hnames hinput hfails
  | keyUnexported => rfl
  | unchecked _ _ hexport hcheck =>
    have hproper := isProper_of_exportPublicKey hsize hexport
    rw [verifyDigest_bytes, loadPublicKey_of_exportPublicKey hproper hsize hexport] at hcheck
    cases hcheck

theorem SignStops.aborts {o : SignOptions} (h : SignStops o t (.error f) t')
    (hunforeseen : f.isForeseen = false) : Aborts t (.sign o) f := by
  cases h with
  | unloaded hload =>
    obtain ⟨text, description, hread, hkey, hf⟩ :=
      (signingKeyOf_unforeseen_iff o.keyPath).mp ⟨⟨_, hload, rfl⟩, hunforeseen⟩
    rw [hf]
    exact .signUnsupported hread hkey
  | unrecorded hload hfails =>
    rcases (failsBeside_unforeseen_iff.mp ⟨hfails, hunforeseen⟩).1 with
      ⟨hnames, rfl⟩ | ⟨target, complaint, htarget, hcomplaint, rfl⟩
    · exact .signUnnamed hload hnames
    · exact .signHashUnusable hload htarget hcomplaint
  | unread hrecords hread =>
    obtain ⟨complaint, rfl⟩ := isForeseen_file_eq_false_iff.mp hunforeseen
    have hcomplaint := Tree.read_eq_unusable_iff.mp hread
    rw [hrecords.hash.complaint?_eq] at hcomplaint
    exact .signInputUnusable hrecords hcomplaint
  | asMessage hrecords hread _ hstops =>
    have hforeseen :=
      hstops.isForeseen hrecords.size_eq hrecords.names_ne_nil (complaint?_of_read hread)
    exact absurd hforeseen (by simp [hunforeseen])
  | asSignature hrecords hread _ hstops =>
    have hforeseen :=
      hstops.isForeseen hrecords.size_eq hrecords.names_ne_nil (complaint?_of_read hread)
    exact absurd hforeseen (by simp [hunforeseen])

theorem Aborts.fails_sign {o : SignOptions} (h : Aborts w.files (.sign o) f) :
    (∃ t, Fails (steps l (.sign o)) w f t) ∧ f.isForeseen = false := by
  cases h with
  | signUnsupported hread hkey =>
    obtain ⟨⟨e, hload, hf⟩, hunforeseen⟩ :=
      (signingKeyOf_unforeseen_iff o.keyPath).mpr ⟨_, _, hread, hkey, rfl⟩
    exact ⟨⟨_, hf ▸ fails_of_unloaded hload⟩, hunforeseen⟩
  | signUnnamed hload hnames =>
    obtain ⟨hfails, hunforeseen⟩ :=
      failsBeside_unforeseen_iff.mpr ⟨.inl ⟨hnames, rfl⟩, rfl⟩
    exact ⟨⟨_, fails_of_unrecorded hload hfails⟩, hunforeseen⟩
  | signHashUnusable hload htarget hcomplaint =>
    obtain ⟨hfails, hunforeseen⟩ :=
      failsBeside_unforeseen_iff.mpr ⟨.inr ⟨_, _, htarget, hcomplaint, rfl⟩, rfl⟩
    exact ⟨⟨_, fails_of_unrecorded hload hfails⟩, hunforeseen⟩
  | signInputUnusable hrecords hcomplaint =>
    rw [← hrecords.hash.complaint?_eq] at hcomplaint
    exact ⟨⟨_, fails_of_unread hrecords (Tree.read_eq_unusable_iff.mpr hcomplaint)⟩, rfl⟩

theorem fails_sign_unforeseen_iff {o : SignOptions} :
    (∃ t, Fails (steps l (.sign o)) w f t) ∧ f.isForeseen = false ↔
      Aborts w.files (.sign o) f := by
  refine ⟨?_, Aborts.fails_sign⟩
  rintro ⟨⟨t, hfails⟩, hunforeseen⟩
  obtain ⟨w₁, hrun, hfiles⟩ := hfails.runIn_eq
  have hstops := signStops_of_runIn hrun nofun
  rw [hfiles] at hstops
  exact hstops.aborts hunforeseen

/-! ### The commands -/

/-- The steps of a command fail for what is not foreseen exactly in the listed cases. -/
theorem fails_unforeseen_iff {invocation : Invocation} :
    (∃ t, Fails (steps l invocation) w f t) ∧ f.isForeseen = false ↔
      Aborts w.files invocation f := by
  cases invocation with
  | sign o => exact fails_sign_unforeseen_iff
  | verify o =>
    simp only [← exists_and_right, fails_verify_unforeseen_iff, exists_and_left, exists_eq',
      and_true]
  | inspect o =>
    simp only [← exists_and_right, fails_inspect_unforeseen_iff, exists_and_left, exists_eq',
      and_true]

end

/-- Between the worlds an error line was logged, and it was logged last. -/
def LogsError (l : Logger) (w w' : World) : Prop :=
  ∃ w₁ message, KeepsEntries w w₁ ∧ w' = World.logged w₁ l .error message

/-- Success, or a failure that an error line told last. -/
def Settled (l : Logger) (w : World) (result : Result) (w' : World) : Prop :=
  result = .success ∨ result = .failure ∧ LogsError l w w'

/-- If the step answers, then with success or after an error line. -/
def Settles (l : Logger) (step : ExceptT Failure (StateM World) Result) : Prop :=
  ∀ w result w', Gives step w result w' → Settled l w result w'

theorem settles_success : Settles l (pure .success) := by
  intro w result w' hgives
  exact .inl (gives_pure_iff.mp hgives).1.symm

/-- The last step of a chain answers for all of it. -/
theorem settles_bind {α : Type} {step : ExceptT Failure (StateM World) α}
    {next : α → ExceptT Failure (StateM World) Result} (hstep : Respects KeepsEntries step)
    (hnext : ∀ a, Settles l (next a)) : Settles l (step >>= next) := by
  intro w result w' hgives
  obtain ⟨a, w₁, hfirst, hrest⟩ := gives_bind_iff.mp hgives
  have hkeeps := hstep w
  rw [show runIn step w = _ from hfirst] at hkeeps
  rcases hnext a w₁ result w' hrest with hsuccess | ⟨hfailure, w₂, message, hkeeps', hlogged⟩
  · exact .inl hsuccess
  · exact .inr ⟨hfailure, w₂, message, trans_of KeepsEntries hkeeps hkeeps', hlogged⟩

theorem settles_failure {message : String} :
    Settles l (do log l .error message; return .failure) := by
  intro w result w' hgives
  obtain ⟨_, w₁, hlog, hpure⟩ := gives_bind_iff.mp hgives
  obtain ⟨rfl, rfl⟩ := gives_pure_iff.mp hpure
  exact .inr ⟨rfl, w, message, refl_of KeepsEntries w, (gives_log_iff.mp hlog).symm⟩

section

variable [KeyLibrary]

theorem settles_signRaw {o : SignOptions} {key : Rsa.PrivateKey} {data : Bytes} :
    Settles l (signRaw l o key data) := by
  have hwrite : ∀ suffix what contents,
      Respects KeepsEntries (writeBeside l o.input suffix what contents) :=
    fun _ _ _ => respects_writeBeside fun _ _ _ => List.prefix_rfl
  unfold signRaw
  refine settles_bind (hwrite _ _ _) fun _ => settles_bind (hwrite _ _ _) fun _ => ?_
  split_ifs
  · refine settles_bind respects_liftM fun _ => settles_bind respects_liftM fun accepted => ?_
    split_ifs
    · exact settles_bind respects_log fun _ => settles_success
    · exact settles_failure
  · exact settles_success

theorem settles_steps (l : Logger) (invocation : Invocation) : Settles l (steps l invocation) := by
  cases invocation with
  | verify o =>
    refine settles_bind respects_readFile fun _ => settles_bind (respects_readTrusted _) fun _ => ?_
    exact settles_bind respects_liftM fun _ => settles_bind respects_print fun _ => settles_success
  | inspect o =>
    refine settles_bind respects_readFile fun _ => ?_
    exact settles_bind respects_liftM fun _ => settles_bind respects_print fun _ => settles_success
  | sign o =>
    refine settles_bind respects_loadSigningKey fun _ => settles_bind respects_liftM fun key => ?_
    refine settles_bind respects_log fun _ => ?_
    refine settles_bind (respects_writeBeside fun _ _ _ => List.prefix_rfl) fun _ => ?_
    refine settles_bind respects_readFile fun data => ?_
    cases o.format with
    | cosesign1 => exact fun w result w' hgives => .inl (yields_signAsMessage w result w' hgives)
    | raw => exact settles_signRaw

/-- A command aborts the run exactly in the listed cases. -/
theorem runCommand_aborted_iff {invocation : Invocation} :
    ((Program.runCommand l invocation : StateM World Result).run w).1 = .aborted f ↔
      Aborts w.files invocation f := by
  obtain ⟨name, hcommand⟩ := exists_runCommand_eq l invocation
  rw [hcommand, ← fails_unforeseen_iff (l := l)]
  refine ⟨?_, ?_⟩
  · intro haborted
    rcases attempt_eq_aborted_iff.mp (Prod.ext haborted rfl) with hgives | ⟨hrun, hunforeseen⟩
    · rcases settles_steps l invocation w _ _ hgives with ⟨⟨⟩⟩ | ⟨⟨⟩, -⟩
    · exact ⟨⟨_, congrArg Prod.fst hrun, rfl⟩, hunforeseen⟩
  · rintro ⟨⟨t, hfails⟩, hunforeseen⟩
    obtain ⟨w', hrun, -⟩ := hfails.runIn_eq
    exact congrArg Prod.fst (attempt_eq_aborted_iff.mpr (.inr ⟨hrun, hunforeseen⟩))

theorem Aborts.exists_runCommand_eq {invocation : Invocation} (h : Aborts w.files invocation f)
    (l : Logger) :
    ∃ w', (Program.runCommand l invocation : StateM World Result).run w = (.aborted f, w') :=
  ⟨_, Prod.ext (runCommand_aborted_iff.mpr h) rfl⟩

/-- A command succeeds, fails with an error line last, or aborts the run. -/
theorem runCommand_settled {invocation : Invocation} {result : Result}
    (h : (Program.runCommand l invocation : StateM World Result).run w = (result, w')) :
    Settled l w result w' ∨ ∃ f, result = .aborted f := by
  obtain ⟨name, hcommand⟩ := exists_runCommand_eq l invocation
  rw [hcommand] at h
  cases result with
  | success => exact .inl (.inl rfl)
  | failure =>
    rcases attempt_eq_failure_iff.mp h with hgives | ⟨f, w₁, hrun, -, hlogged⟩
    · exact .inl (settles_steps l invocation w _ w' hgives)
    · have hkeeps := keepsEntries_steps l invocation w
      rw [hrun] at hkeeps
      exact .inl (.inr ⟨rfl, w₁, _, hkeeps, hlogged.symm⟩)
  | aborted f => exact .inr ⟨f, rfl⟩

end

end Commands

namespace Program

open Commands

variable {start : Start} {w w' : World} {logger : Logger} {invocation : Invocation}

/-- The ways in which a run that starts in the first world and leaves the second is meant to end. -/
def EndsProperly (l : Logger) (w : World) (ending : Ending) (w' : World) : Prop :=
  ending.status = 0 ∨
    (ending = .finished .failure ∧ ending.status = 1 ∧ LogsError l w w') ∨
    ∃ program error, ending = .stopped (.refused program error) ∧ ending.status = 2

theorem endsProperly_stopped (stop : Stop) : EndsProperly logger w (.stopped stop) w' := by
  cases stop with
  | help program => exact .inl rfl
  | refused program error => exact .inr (.inr ⟨program, error, rfl, rfl⟩)

theorem endsProperly_finished_iff {result : Result} :
    EndsProperly logger w (.finished result) w' ↔ Settled logger w result w' := by
  cases result with
  | success => exact iff_of_true (.inl rfl) (.inl rfl)
  | failure => simp [EndsProperly, Settled, Ending.status]
  | aborted f => simp [EndsProperly, Settled, Ending.status]

section

variable [KeyLibrary]

/-- A command ends properly if and only if it does not abort the run. -/
theorem settled_runCommand_iff :
    Settled logger w ((runCommand logger invocation : StateM World Result).run w).1
        ((runCommand logger invocation : StateM World Result).run w).2 ↔
      ∀ f, ¬ Aborts w.files invocation f := by
  simp only [← runCommand_aborted_iff (l := logger)]
  rcases hrun : (runCommand logger invocation : StateM World Result).run w with ⟨result, w'⟩
  refine ⟨?_, ?_⟩
  · rintro hsettled f ⟨⟩
    rcases hsettled with ⟨⟨⟩⟩ | ⟨⟨⟩, -⟩
  · intro h
    refine (runCommand_settled hrun).resolve_right ?_
    rintro ⟨f, rfl⟩
    exact h f rfl

/-- A run ends in success, with an error line last or with a refusal of the command line if and only
if its level is one and nothing that no command foresees happens; in the latter cases, and in no
other, it is aborted. -/
theorem endsProperly_iff (start : Start) (w : World) :
    ((∃ logger, Logger.fresh.setUp start.settings.logLevel = (.ok (), logger) ∧
        EndsProperly logger w ((run start : StateM World Ending).run w).1
          ((run start : StateM World Ending).run w).2) ↔
      start.settings.logLevel ∉ ["BASIC_FORMAT", "_STYLES"] ∧
        ∀ invocation f, Invocation.read start.settings start.words = .ok invocation →
          ¬ Aborts w.files invocation f) ∧
    ∀ f, ((run start : StateM World Ending).run w).1 = .finished (.aborted f) ↔
      start.settings.logLevel ∉ ["BASIC_FORMAT", "_STYLES"] ∧
        ∃ invocation, Invocation.read start.settings start.words = .ok invocation ∧
          Aborts w.files invocation f := by
  rw [← Logger.exists_setUp_fresh_iff, run_eq]
  rcases Logger.fresh.setUp start.settings.logLevel with ⟨error | ⟨⟨⟩⟩, logger⟩
  · simp
  cases Invocation.read start.settings start.words with
  | error stop => simp [endsProperly_stopped]
  | ok invocation =>
    simp only [endsProperly_finished_iff, Prod.mk.injEq, true_and, exists_eq_left', exists_eq',
      Except.ok.injEq, Ending.finished.injEq, settled_runCommand_iff, runCommand_aborted_iff,
      implies_true, and_true]
    refine ⟨?_, fun h f => h invocation f rfl⟩
    rintro h _ f rfl
    exact h f

end

/-- A world with a message whose key is of an unknown algorithm. -/
def unknownWorld : World :=
  .ofFiles <| (Tree.workingIn ["work"]).put ["work", "m.cosesign1"] <|
    .file Message.unknownSpecimen.layout

/-- A run that is told to verify this message does not end properly. -/
theorem run_verify_unknown :
    ∃ w', (run ⟨[], "", ["verify", "m.cosesign1"]⟩ : StateM World Ending).run unknownWorld =
        (.finished (.aborted (.unsupported "Unknown key type: 1.2.3.4")), w') ∧
      ∀ logger, ¬ EndsProperly logger unknownWorld
        (.finished (.aborted (.unsupported "Unknown key type: 1.2.3.4"))) w' := by
  have hread : Invocation.read Settings.fallback ["verify", "m.cosesign1"] =
      .ok (.verify ⟨"m.cosesign1", none⟩) :=
    (Invocation.read_eq_ok_iff .verify).mpr ⟨_, _, rfl, rfl, rfl, rfl⟩
  have hload : loadPublicKey Message.unknownSpecimen.key.der =
      .error (.unsupported "Unknown key type: 1.2.3.4") := by
    decide +kernel
  have haborts : Aborts unknownWorld.files (.verify ⟨"m.cosesign1", none⟩)
      (.unsupported "Unknown key type: 1.2.3.4") :=
    .verifyEmbedded rfl rfl (Message.decode_layout (by decide))
      (loadPublicKey_eq_unsupported_iff.mp hload)
  obtain ⟨w', hcommand⟩ := haborts.exists_runCommand_eq ⟨1, .info⟩
  refine ⟨w', run_unset_eq_finished_iff.mpr ⟨_, hread, hcommand⟩, fun logger => ?_⟩
  rw [endsProperly_finished_iff]
  rintro (⟨⟨⟩⟩ | ⟨⟨⟩, -⟩)

end Program

end Rs256Cose
