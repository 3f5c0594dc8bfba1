import Mathlib
import Rs256Cose.KeyTool
import Rs256Cose.Proofs.Commands.Frame
import Rs256Cose.Proofs.Keys.Creation

/-!
# Runs of the key tool

The path of the public key never leads to the file of the signing key
(`not_samePlace_publicPath`), so a run leaves a signing key that it finds alone however it ends
(`respects_run`). A run to the end has provided the key, loaded it and written its public half
(`gives_run_iff`), and both are loaded from their files afterwards (`run_keeps_signingKey`).

All of this is about two names. In a tree without links two names that are told apart belong to two
files; a link from one name to the other would make them one file, and the public key would take the
place of the signing key.
-/

namespace Rs256Cose.KeyTool

open Files Keys Commands

variable {generate : Nat → Nat → StateM World Rsa.PrivateKey} {path : String} {w w' : World}

/-! ### Two files -/

theorem isSuffix_pubPem : Path.IsSuffix ".pub.pem" := ⟨by decide, by decide⟩

theorem publicPath_ne (path : String) : publicPath path ≠ path :=
  Path.root_append_ne isSuffix_pubPem (by decide) path

theorem not_samePlace_publicPath (t : Tree) (path : String) :
    ¬ t.SamePlace (publicPath path) path :=
  Path.not_samePlace_root isSuffix_pubPem (by decide) t path

/-- What is read from a path in the first tree is read from it in the second. -/
def KeepsFile (path : String) (t t' : Tree) : Prop :=
  ∀ data, t.read path = .ok data → t'.read path = .ok data

instance (path : String) : IsPreorder Tree (KeepsFile path) where
  refl _ _ h := h
  trans _ _ _ h h' data hread := h' data (h data hread)

theorem keepsFile_store_publicPath (t : Tree) (path : String) (contents : Bytes) :
    KeepsFile path t (t.store (publicPath path) contents).2 := by
  intro data hread
  have halters : t.AltersOnly (· = publicPath path) (t.store (publicPath path) contents).2 :=
    t.altersOnly_store rfl
  refine (halters.read_iff ?_).mpr hread
  rintro _ rfl
  exact not_samePlace_publicPath t path

/-! ### Steps of a run -/

theorem respects_provideSigningKey (generate : Nat → Nat → StateM World Rsa.PrivateKey)
    (path : String) :
    Respects (OnFiles (KeepsFile path)) (ExceptT.lift (provideSigningKey generate path)) := by
  intro w data hread
  obtain ⟨place, hlocate, hnode⟩ := Tree.read_eq_ok_iff.mp hread
  have hexists : w.files.exists? path = true := by simp [Tree.exists?, hlocate, hnode]
  change ((provideSigningKey generate path).run w).2.files.read path = .ok data
  rw [run_provideSigningKey_of_exists generate hexists]
  exact hread

section

variable [KeyLibrary]

theorem respects_run (generate : Nat → Nat → StateM World Rsa.PrivateKey) (path : String) :
    Respects (OnFiles (KeepsFile path)) (run generate path) := by
  have hwrite : ∀ contents (w : World),
      OnFiles (KeepsFile path) w (w.write (publicPath path) contents).2 := by
    intro contents w
    rw [OnFiles, World.files_write]
    exact keepsFile_store_publicPath w.files path contents
  unfold run
  refine respects_bind (respects_provideSigningKey generate path) fun _ => ?_
  refine respects_bind respects_liftM fun _ => respects_bind respects_loadSigningKey fun _ => ?_
  refine respects_bind respects_liftM fun _ => ?_
  refine respects_bind (respects_write (hwrite _)) fun _ => ?_
  exact respects_bind respects_liftM fun _ => respects_print

/-- The line that tells of the two files. -/
def report (path : String) (key : Rsa.PublicKey) : String :=
  s!"Generated: {path}, {publicPath path} (signer key hash {(keyHash key).bytes.hex})"

theorem gives_run_iff : Gives (run generate path) w () w' ↔ ∃ w₁ key t,
    (provideSigningKey generate path).run w = (.ok (), w₁) ∧
      ((loadSigningKey path : StateM World _).run w₁).1 = .ok key ∧
      w₁.files.store (publicPath path) (encodePublicPem key.toPublicKey) = (.ok (), t) ∧
      w' = { w₁ with files := t, printed := w₁.printed ++ [report path key.toPublicKey] } := by
  unfold run
  simp only [gives_bind_iff, gives_lift_iff, gives_liftM_iff, gives_loadSigningKey_iff,
    gives_write_iff, gives_print_iff, mapError_eq_ok_iff]
  refine ⟨?_, ?_⟩
  · rintro ⟨_, _, ⟨rfl, rfl⟩, _, _, ⟨hprovided, rfl⟩, _, _, ⟨rfl, rfl⟩, key, _, ⟨hload, rfl⟩, _, _,
      ⟨rfl, rfl⟩, _, _, ⟨hwritten, rfl⟩, rfl⟩
    rcases hrun : (provideSigningKey generate path).run w with ⟨answer, w₁⟩
    rw [hrun] at hprovided hload hwritten
    obtain rfl : answer = .ok () := hprovided
    rcases hstore : w₁.files.store (publicPath path) (encodePublicPem key.toPublicKey) with
      ⟨answer, t⟩
    rw [hstore] at hwritten
    obtain rfl : answer = .ok () := hwritten
    exact ⟨w₁, key, t, rfl, hload, hstore, rfl⟩
  · rintro ⟨w₁, key, t, hprovided, hload, hstore, rfl⟩
    refine ⟨.ok (), w₁, ?_, (), w₁, ⟨rfl, rfl⟩, .ok key, w₁, ⟨hload, rfl⟩, key, w₁, ⟨rfl, rfl⟩,
      .ok (), { w₁ with files := t }, ?_, (), _, ⟨rfl, rfl⟩, rfl⟩
    · rw [hprovided]
      exact ⟨rfl, rfl⟩
    · rw [hstore]
      exact ⟨rfl, rfl⟩

/-- In a tree, which has no links, the key tool never writes the public key where the signing key
is. A signing key that it finds is left alone however the run ends; after a run to the end the
signing key is loaded from its path, and the other file holds its public half, which is loaded from
there if it is proper. -/
theorem run_keeps_signingKey (generate : Nat → Nat → StateM World Rsa.PrivateKey) (path : String)
    (w : World) : publicPath path ≠ path ∧
    (∀ data, w.files.read path = .ok data →
      (runIn (run generate path) w).2.files.read path = .ok data) ∧
    ∀ w', Gives (run generate path) w () w' → ¬ w'.files.SamePlace (publicPath path) path ∧
      ∃ key text, ((loadSigningKey path : StateM World _).run w').1 = .ok key ∧
        w'.files.read (publicPath path) = .ok text ∧ text = encodePublicPem key.toPublicKey ∧
        (key.toPublicKey.IsProper → loadPublicKey text = .ok key.toPublicKey) := by
  refine ⟨publicPath_ne path, respects_run generate path w, fun w' hgives => ?_⟩
  obtain ⟨w₁, key, t, -, hload, hstore, rfl⟩ := gives_run_iff.mp hgives
  obtain ⟨text, hread, hpem, hsize⟩ := loadSigningKey_eq_ok_iff.mp hload
  have hkept :=
    keepsFile_store_publicPath w₁.files path (encodePublicPem key.toPublicKey) text hread
  rw [hstore] at hkept
  exact ⟨not_samePlace_publicPath t path, key, _,
    loadSigningKey_eq_ok_iff.mpr ⟨text, hkept, hpem, hsize⟩,
    Tree.read_of_write (Tree.store_eq_ok_iff.mp hstore).1, rfl,
    fun hproper => loadPublicKey_pem hproper hsize⟩

end

end Rs256Cose.KeyTool
