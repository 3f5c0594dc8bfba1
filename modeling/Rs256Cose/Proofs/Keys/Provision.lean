import Mathlib
import Rs256Cose.Proofs.Files.Growth
import Rs256Cose.Proofs.Keys.Storage

/-!
# Keys that are provided

A call for a signing key looks whether its path leads to anything, makes the directories above and
writes the file; `Provides` lists how this can go. By then the path may lead elsewhere: it can go up
from a directory that was made on its behalf. A call leaves every file alone unless its path does
so, and then only the file that the path leads to in the end is changed (`provided_keeps_files`). It
holds the new key, or what got into it before the write broke off.
-/

namespace Rs256Cose.Keys

open Files

variable {generate : Nat → Nat → StateM World Rsa.PrivateKey} {path : String} {w : World}
  {place : Place} {contents : Bytes}

/-- Whether a source of keys leaves the files alone. -/
def KeepsFiles (generate : Nat → Nat → StateM World Rsa.PrivateKey) : Prop :=
  ∀ exponent bits w, ((generate exponent bits).run w).2.files = w.files

theorem keepsFiles_supply (key : Rsa.PrivateKey) : KeepsFiles (supply key) := fun _ _ _ => rfl

/-! ### One call -/

/-- Makes the directories that the text of a path names above its file. -/
def provideParent (path : String) : StateM World (Except FileError Unit) :=
  if Path.parent path = "" then pure (.ok ()) else makeDirectories (Path.parent path)

theorem growing_provideParent (path : String) : Growing (provideParent path) := by
  unfold provideParent
  split_ifs
  · exact growing_pure _
  · exact growing_makeDirectories _

theorem run_provideSigningKey (generate : Nat → Nat → StateM World Rsa.PrivateKey) (path : String)
    (w : World) : (provideSigningKey generate path).run w =
      if w.files.exists? path then (.ok (), w)
      else match (provideParent path).run w with
        | (.error e, w₁) => (.error e, w₁)
        | (.ok (), w₁) => match (generate newExponent requiredBits).run w₁ with
          | (key, w₂) => w₂.write path (encodePrivatePem key) := by
  unfold provideSigningKey
  rw [StateT.run_bind]
  change StateT.run (if w.files.exists? path = true then _ else _) w = _
  split_ifs
  · rfl
  · simp only [pure_bind]
    unfold provideParent
    split_ifs
    · rfl
    · rw [StateT.run_bind]
      rcases (makeDirectories (Path.parent path) : StateM World _).run w with ⟨e | u, w₁⟩
      · rfl
      · rfl

/-- The ways that a call can go, each with its answer and the world after it. -/
inductive Provides (generate : Nat → Nat → StateM World Rsa.PrivateKey) (path : String)
    (w : World) : Except FileError Unit → World → Prop
  | present (hexists : w.files.exists? path = true) : Provides generate path w (.ok ()) w
  /-- A directory above the file cannot be made. -/
  | unplaced {e : FileError} {w₁ : World} (hexists : w.files.exists? path = false)
      (hparent : (provideParent path).run w = (.error e, w₁)) :
      Provides generate path w (.error e) w₁
  /-- The file cannot be opened, when the key for it is there already. -/
  | unopened {e : FileError} {w₁ w₂ : World} {key : Rsa.PrivateKey}
      (hexists : w.files.exists? path = false)
      (hparent : (provideParent path).run w = (.ok (), w₁))
      (hkey : (generate newExponent requiredBits).run w₁ = (key, w₂))
      (hopened : ∀ description, e ≠ .interrupted description) :
      Provides generate path w (.error e) w₂
  /-- Only a front part of the key gets into the file. -/
  | broken {description : String} {kept : Nat} {w₁ w₂ : World} {key : Rsa.PrivateKey} {t : Tree}
      (hexists : w.files.exists? path = false)
      (hparent : (provideParent path).run w = (.ok (), w₁))
      (hkey : (generate newExponent requiredBits).run w₁ = (key, w₂))
      (hwrite : w₂.files.write path ((encodePrivatePem key).take kept) = .ok t) :
      Provides generate path w (.error (.interrupted description)) { w₂ with files := t }
  | made {w₁ w₂ : World} {key : Rsa.PrivateKey} {t : Tree}
      (hexists : w.files.exists? path = false)
      (hparent : (provideParent path).run w = (.ok (), w₁))
      (hkey : (generate newExponent requiredBits).run w₁ = (key, w₂))
      (hwrite : w₂.files.write path (encodePrivatePem key) = .ok t) :
      Provides generate path w (.ok ()) { w₂ with files := t }

theorem provides_run (generate : Nat → Nat → StateM World Rsa.PrivateKey) (path : String)
    (w : World) : Provides generate path w ((provideSigningKey generate path).run w).1
      ((provideSigningKey generate path).run w).2 := by
  rw [run_provideSigningKey]
  split_ifs with hexists
  · exact .present hexists
  rw [Bool.not_eq_true] at hexists
  rcases hparent : (provideParent path).run w with ⟨e | u, w₁⟩
  · exact .unplaced hexists hparent
  · rcases hkey : (generate newExponent requiredBits).run w₁ with ⟨key, w₂⟩
    simp only [hkey]
    rcases hstore : w₂.files.store path (encodePrivatePem key) with ⟨answer, t⟩
    simp only [World.write, hstore]
    rcases Tree.store_cases hstore with ⟨rfl, hwrite, -⟩ | ⟨e, rfl, hopened, rfl⟩ |
      ⟨description, kept, rfl, hwrite⟩
    · exact .made hexists hparent hkey hwrite
    · exact .unopened hexists hparent hkey hopened
    · exact .broken hexists hparent hkey hwrite

theorem provides_of_run {answer : Except FileError Unit} {w' : World}
    (h : (provideSigningKey generate path).run w = (answer, w')) :
    Provides generate path w answer w' := by
  have hprovides := provides_run generate path w
  rwa [h] at hprovides

theorem files_of_generate (hgenerate : KeepsFiles generate) {w₁ w₂ : World}
    {key : Rsa.PrivateKey} (hkey : (generate newExponent requiredBits).run w₁ = (key, w₂)) :
    w₂.files = w₁.files := by
  rw [← hgenerate newExponent requiredBits w₁, hkey]

/-- The files that a call finds when it has made the directories above its own. -/
theorem grows_of_provideParent {answer : Except FileError Unit} {w₁ : World}
    (hparent : (provideParent path).run w = (answer, w₁)) : w.files.Grows w₁.files := by
  have hgrows := growing_provideParent path w
  rwa [hparent] at hgrows

/-- A call that is refused, and not broken off, has made directories at most. -/
theorem Provides.grows_of_error (hgenerate : KeepsFiles generate) {e : FileError} {w' : World}
    (h : Provides generate path w (.error e) w')
    (he : ∀ description, e ≠ .interrupted description) : w.files.Grows w'.files := by
  cases h with
  | unplaced _ hparent => exact grows_of_provideParent hparent
  | unopened _ hparent hkey =>
    rw [files_of_generate hgenerate hkey]
    exact grows_of_provideParent hparent
  | @broken description => exact absurd rfl (he description)

/-- Whether this is what the file of a call with this answer can hold: the whole of a new key, or a
front part of it if the call broke off. -/
def HoldsKey (answer : Except FileError Unit) (key : Rsa.PrivateKey) (contents : Bytes) : Prop :=
  contents = encodePrivatePem key ∨
    (∃ description, answer = .error (.interrupted description)) ∧ contents <+: encodePrivatePem key

/-- What a call does to the files: they grow, and where the path led to nothing at first a new key
may be written to it in the end. -/
theorem Provides.cases (hgenerate : KeepsFiles generate) {answer : Except FileError Unit}
    {w' : World} (h : Provides generate path w answer w') :
    w.files.Grows w'.files ∨ ∃ t key contents, w.files.exists? path = false ∧ w.files.Grows t ∧
      HoldsKey answer key contents ∧ t.write path contents = .ok w'.files := by
  cases h with
  | present => exact .inl (.refl _)
  | unplaced _ hparent => exact .inl (grows_of_provideParent hparent)
  | unopened _ hparent hkey =>
    rw [files_of_generate hgenerate hkey]
    exact .inl (grows_of_provideParent hparent)
  | broken hexists hparent hkey hwrite =>
    rw [files_of_generate hgenerate hkey] at hwrite
    exact .inr ⟨_, _, _, hexists, grows_of_provideParent hparent,
      .inr ⟨⟨_, rfl⟩, List.take_prefix _ _⟩, hwrite⟩
  | made hexists hparent hkey hwrite =>
    rw [files_of_generate hgenerate hkey] at hwrite
    exact .inr ⟨_, _, _, hexists, grows_of_provideParent hparent, .inl rfl, hwrite⟩

theorem rooted_provideSigningKey (hgenerate : KeepsFiles generate) (path : String)
    (hrooted : w.files.Rooted) :
    ((provideSigningKey generate path).run w).2.files.Rooted := by
  rcases (provides_run generate path w).cases hgenerate with
    hgrows | ⟨t, key, contents, -, hgrows, -, hwrite⟩
  · exact hgrows.rooted hrooted
  · exact (hgrows.rooted hrooted).write hwrite

/-- A file is changed by a call only if the path climbs, and then the path leads to it and it holds
the new key. -/
theorem Provides.keeps_or_climbs (hgenerate : KeepsFiles generate) (hrooted : w.files.Rooted)
    {answer : Except FileError Unit} {w' : World} (h : Provides generate path w answer w')
    (hfile : w.files.node? place = some (.file contents)) :
    w'.files.node? place = some (.file contents) ∨
    w.files.Climbs path ∧ w'.files.locate path = .ok place ∧
      ∃ key new, w'.files.node? place = some (.file new) ∧ HoldsKey answer key new := by
  rcases h.cases hgenerate with hgrows | ⟨t, key, new, hexists, hgrows, hnew, hwrite⟩
  · exact .inl (hgrows.keeps _ _ hfile)
  · rcases Tree.kept_or_climbs hgrows hrooted hexists hwrite hfile with
      hkept | ⟨hclimbs, hlocate, hnode⟩
    · exact .inl hkept
    · exact .inr ⟨hclimbs, hlocate, key, new, hnode, hnew⟩

/-! ### Calls one after the other -/

/-- The world after a call for a key at each of the paths in turn. -/
def provided (generate : Nat → Nat → StateM World Rsa.PrivateKey) (w : World)
    (paths : List String) : World :=
  paths.foldl (fun w path => ((provideSigningKey generate path).run w).2) w

theorem provided_concat (generate : Nat → Nat → StateM World Rsa.PrivateKey) (w : World)
    (before : List String) (path : String) :
    provided generate w (before ++ [path]) =
      ((provideSigningKey generate path).run (provided generate w before)).2 := by
  simp only [provided, List.foldl_append, List.foldl_cons, List.foldl_nil]

theorem rooted_provided (hgenerate : KeepsFiles generate) (hrooted : w.files.Rooted)
    (paths : List String) : (provided generate w paths).files.Rooted := by
  induction paths generalizing w with
  | nil => exact hrooted
  | cons path rest ih => exact ih (rooted_provideSigningKey hgenerate path hrooted)

/-- After any number of calls, a call leaves every file alone, whatever it answers, unless its path
goes up from a place that does not exist yet; then the one file that may be changed is the one that
the path leads to, and it holds a new key, all of it unless the call broke off. Paths that never go
up keep all files for good. -/
theorem provided_keeps_files (hgenerate : KeepsFiles generate) (hrooted : w.files.Rooted) :
    (∀ before path place contents,
      (provided generate w before).files.node? place = some (.file contents) →
      (provided generate w (before ++ [path])).files.node? place = some (.file contents) ∨
      (provided generate w before).files.Climbs path ∧
        (provided generate w (before ++ [path])).files.locate path = .ok place ∧
        ∃ key new,
          (provided generate w (before ++ [path])).files.node? place = some (.file new) ∧
          HoldsKey ((provideSigningKey generate path).run (provided generate w before)).1 key
            new) ∧
    ∀ paths, (∀ path ∈ paths, ['.', '.'] ∉ Path.names path.toList) →
      ∀ place contents, w.files.node? place = some (.file contents) →
        (provided generate w paths).files.node? place = some (.file contents) := by
  refine ⟨fun before path place contents hfile => ?_, fun paths hpaths place contents hfile => ?_⟩
  · rw [provided_concat]
    exact (provides_run generate path _).keeps_or_climbs hgenerate
      (rooted_provided hgenerate hrooted before) hfile
  · induction paths generalizing w with
    | nil => exact hfile
    | cons path rest ih =>
      obtain ⟨hpath, hrest⟩ := List.forall_mem_cons.mp hpaths
      refine ih (rooted_provideSigningKey hgenerate path hrooted) hrest ?_
      rcases (provides_run generate path w).keeps_or_climbs hgenerate hrooted hfile with
        hkept | ⟨hclimbs, -⟩
      · exact hkept
      · exact absurd hclimbs (Tree.not_climbs_of_names hpath)

/-- A world with a file of three bytes where a key might be looked for. -/
def occupiedWorld : World :=
  .ofFiles <| (Tree.workingIn ["work"]).put ["work", "k.pem"] <| .file [0x6f, 0x6c, 0x64]

theorem rooted_occupiedWorld : occupiedWorld.files.Rooted := by
  refine (Tree.rooted_workingIn "work").put ?_ ?_
  · decide
  · decide

theorem provided_keeps_files_occupied : occupiedWorld.files.Rooted ∧
    occupiedWorld.files.node? ["work", "k.pem"] = some (.file [0x6f, 0x6c, 0x64]) ∧
    (provided (supply Rsa.specimen) occupiedWorld ["keys/new.pem", "./k.pem", "k.pem/"]).files.node?
      ["work", "k.pem"] = some (.file [0x6f, 0x6c, 0x64]) := by
  have hfile : occupiedWorld.files.node? ["work", "k.pem"] = some (.file [0x6f, 0x6c, 0x64]) := by
    decide
  have hpaths : ∀ path ∈ ["keys/new.pem", "./k.pem", "k.pem/"],
      ['.', '.'] ∉ Path.names path.toList := by
    decide
  obtain ⟨-, hkeeps⟩ := provided_keeps_files (keepsFiles_supply Rsa.specimen) rooted_occupiedWorld
  exact ⟨rooted_occupiedWorld, hfile, hkeeps _ hpaths _ _ hfile⟩

/-- The directory that is made for a path leads it to a file that it did not lead to before, and
this file is lost. -/
theorem provided_climbing :
    occupiedWorld.files.node? ["work", "k.pem"] = some (.file [0x6f, 0x6c, 0x64]) ∧
    (provided (supply Rsa.specimen) occupiedWorld ["a/../k.pem"]).files.node? ["work", "k.pem"] =
      some (.file (encodePrivatePem Rsa.specimen)) ∧
    encodePrivatePem Rsa.specimen ≠ [0x6f, 0x6c, 0x64] := by
  have hlineage : Path.lineage (Path.parent "a/../k.pem").toList =
      [("a/..", ".."), ("a", "a")] := by
    decide +kernel
  have hparent : (provideParent "a/../k.pem").run occupiedWorld =
      (.ok (), .ofFiles (occupiedWorld.files.put ["work", "a"] .directory)) := by
    rw [provideParent, if_neg (by decide), makeDirectories, hlineage]
    rfl
  have hrun : ((provideSigningKey (supply Rsa.specimen) "a/../k.pem").run occupiedWorld).2.files =
      (occupiedWorld.files.put ["work", "a"] .directory).put ["work", "k.pem"]
        (.file (encodePrivatePem Rsa.specimen)) := by
    rw [run_provideSigningKey, if_neg (by decide), hparent]
    rfl
  refine ⟨by decide, ?_, by decide +kernel⟩
  change ((provideSigningKey (supply Rsa.specimen) "a/../k.pem").run occupiedWorld).2.files.node?
    ["work", "k.pem"] = _
  rw [hrun, Tree.node?_put _ _ _ (List.cons_ne_nil _ _)]

end Rs256Cose.Keys
