import Mathlib
import Rs256Cose.Proofs.Keys.Provision

/-!
# Keys that are created

A call for a signing key that is answered leaves something at its path, so all further calls for it
look and do nothing (`provided_eq_self`). If the call has made the file, the file holds the new key
as it is loaded from there (`loadSigningKey_of_write`).
-/

namespace Rs256Cose.Keys

open Files

variable {generate : Nat → Nat → StateM World Rsa.PrivateKey} {path : String}
  {w w' : World}

/-- What is expected of a source of keys: the files are left alone, and a new key is proper, has the
size that was asked for and a private exponent below its modulus, and is one that the library
takes. -/
structure IsSource [KeyLibrary] (generate : Nat → Nat → StateM World Rsa.PrivateKey) : Prop where
  keepsFiles : KeepsFiles generate
  isProper : ∀ w, ((generate newExponent requiredBits).run w).1.toPublicKey.IsProper
  size_eq : ∀ w, ((generate newExponent requiredBits).run w).1.toPublicKey.size = requiredBits
  privateExponent_lt : ∀ w, ((generate newExponent requiredBits).run w).1.privateExponent <
    ((generate newExponent requiredBits).run w).1.modulus
  admitsPrivate : ∀ w,
    KeyLibrary.admitsPrivate ((generate newExponent requiredBits).run w).1 = true

/-- A source of proper keys with prime factors is one whatever the library. -/
theorem isSource_of_prime [KeyLibrary] (hkeeps : KeepsFiles generate)
    (hkey : ∀ w, ∃ key w', (generate newExponent requiredBits).run w = (key, w') ∧
      key.toPublicKey.IsProper ∧ key.toPublicKey.size = requiredBits ∧
      key.privateExponent < key.modulus ∧ key.prime1.Prime ∧ key.prime2.Prime) :
    IsSource generate where
  keepsFiles := hkeeps
  isProper w := by
    obtain ⟨key, w', hrun, hproper, -⟩ := hkey w
    rwa [hrun]
  size_eq w := by
    obtain ⟨key, w', hrun, -, hsize, -⟩ := hkey w
    rwa [hrun]
  privateExponent_lt w := by
    obtain ⟨key, w', hrun, -, -, hprivate, -⟩ := hkey w
    rwa [hrun]
  admitsPrivate w := by
    obtain ⟨key, w', hrun, hproper, hsize, hprivate, hp, hq⟩ := hkey w
    rw [hrun]
    exact KeyLibrary.admitsPrivate_of_isProper key hproper hsize hprivate
      (Rsa.PrivateKey.hasPrimeFactors hp hq)

theorem run_supply (key : Rsa.PrivateKey) (exponent bits : Nat) (w : World) :
    (supply key exponent bits).run w =
      (key, { w with keyRequests := w.keyRequests ++ [(exponent, bits)] }) := rfl

theorem isSource_supply [KeyLibrary] {key : Rsa.PrivateKey} (hproper : key.toPublicKey.IsProper)
    (hsize : key.toPublicKey.size = requiredBits) (hprivate : key.privateExponent < key.modulus)
    (hp : key.prime1.Prime) (hq : key.prime2.Prime) : IsSource (supply key) :=
  isSource_of_prime (keepsFiles_supply key) fun w =>
    ⟨key, _, run_supply key _ _ w, hproper, hsize, hprivate, hp, hq⟩

/-! ### Calls that find the file -/

theorem run_provideSigningKey_of_exists (generate : Nat → Nat → StateM World Rsa.PrivateKey)
    (hexists : w.files.exists? path = true) :
    (provideSigningKey generate path).run w = (.ok (), w) := by
  rw [run_provideSigningKey, if_pos hexists]

theorem provided_eq_self (generate : Nat → Nat → StateM World Rsa.PrivateKey)
    {paths : List String} (hexists : ∀ path ∈ paths, w.files.exists? path = true) :
    provided generate w paths = w := by
  induction paths with
  | nil => rfl
  | cons path rest ih =>
    obtain ⟨hpath, hrest⟩ := List.forall_mem_cons.mp hexists
    rw [provided, List.foldl_cons, run_provideSigningKey_of_exists generate hpath]
    exact ih hrest

theorem Provides.exists?_of_ok (h : Provides generate path w (.ok ()) w') :
    w'.files.exists? path = true := by
  cases h with
  | present hexists => exact hexists
  | made _ _ _ hwrite => exact Tree.exists?_of_write hwrite

/-! ### Calls that make the file -/

/-- Files that the path does not lead to in the end are the same ones after every call. -/
theorem Provides.keeps_of_ne (hgenerate : KeepsFiles generate) {answer : Except FileError Unit}
    {place : Place} (h : Provides generate path w answer w')
    (hne : w'.files.locate path ≠ .ok place) :
    (∀ contents, w'.files.node? place = some (.file contents) ↔
      w.files.node? place = some (.file contents)) ∧
    (w.files.node? place = some .directory → w'.files.node? place = some .directory) := by
  rcases h.cases hgenerate with hgrows | ⟨t, key, new, -, hgrows, -, hwrite⟩
  · exact ⟨fun contents => hgrows.file_iff, hgrows.keeps place _⟩
  · obtain ⟨q, hlocate, -, hq, hput⟩ := Tree.write_eq_ok_iff.mp hwrite
    have hplace : place ≠ q := by
      rintro rfl
      rw [hput] at hne
      exact hne ((Tree.locate_put_eq_ok_iff hq).mpr hlocate)
    rw [hput, Tree.node?_put_of_ne t _ hplace]
    exact ⟨fun contents => hgrows.file_iff, hgrows.keeps place _⟩

/-- A key that was written to a path is loaded from it. -/
theorem loadSigningKey_of_write [KeyLibrary] {t : Tree} {key : Rsa.PrivateKey}
    (hproper : key.toPublicKey.IsProper) (hsize : key.toPublicKey.size = requiredBits)
    (hprivate : key.privateExponent < key.modulus)
    (hadmits : KeyLibrary.admitsPrivate key = true)
    (hwrite : t.write path (encodePrivatePem key) = .ok w.files) :
    ((loadSigningKey path : StateM World _).run w).1 = .ok key :=
  loadSigningKey_eq_ok_iff.mpr ⟨_, Tree.read_of_write hwrite,
    readPrivatePem_encodePrivatePem hproper hsize hprivate hadmits, hsize⟩

theorem run_provideParent_nested : (provideParent "keys/sk.pem").run occupiedWorld =
    (.ok (), .ofFiles (occupiedWorld.files.put ["work", "keys"] .directory)) := by
  have hlineage : Path.lineage (Path.parent "keys/sk.pem").toList = [("keys", "keys")] := by
    decide +kernel
  rw [provideParent, if_neg (by decide), makeDirectories, hlineage]
  rfl

theorem run_provideParent_belowFile : (provideParent "k.pem/sk.pem").run occupiedWorld =
    (.error (.exists "k.pem"), occupiedWorld) := by
  have hlineage : Path.lineage (Path.parent "k.pem/sk.pem").toList = [("k.pem", "k.pem")] := by
    decide +kernel
  rw [provideParent, if_neg (by decide), makeDirectories, hlineage]
  rfl

/-- A call that is answered where nothing was has made the file, with a key that was generated once
and is loaded from there. Whatever was there, further calls that are not interrupted by anything
else are answered and change nothing, nor do they ask any source for a key. A call that is refused
leaves the same files and at most more directories, unless the write broke off: then all files but
the one that is written to are the same. -/
theorem provideSigningKey_creates_once [KeyLibrary] (hsource : IsSource generate) (path : String)
    (w : World) :
    (∀ w', (provideSigningKey generate path).run w = (.ok (), w') →
      (w.files.exists? path = false → ∃ w₁ w₂ key, (provideParent path).run w = (.ok (), w₁) ∧
        (generate 65537 2048).run w₁ = (key, w₂) ∧ w'.keyRequests = w₂.keyRequests ∧
        key.toPublicKey.size = 2048 ∧ ((loadSigningKey path : StateM World _).run w').1 = .ok key) ∧
      ∀ source calls, provided source w' (List.replicate calls path) = w' ∧
        (provideSigningKey source path).run w' = (.ok (), w')) ∧
    ∀ e w', (provideSigningKey generate path).run w = (.error e, w') → ∀ place,
      (∀ description, e ≠ .interrupted description) ∨ w'.files.locate path ≠ .ok place →
      (∀ contents, w'.files.node? place = some (.file contents) ↔
        w.files.node? place = some (.file contents)) ∧
      (w.files.node? place = some .directory → w'.files.node? place = some .directory) := by
  refine ⟨fun w' hrun => ⟨fun hmissing => ?_, fun source calls => ?_⟩,
    fun e w' hrun place hplace => ?_⟩
  · cases provides_of_run hrun with
    | present hexists =>
      rw [hmissing] at hexists
      cases hexists
    | @made w₁ w₂ key t _ hparent hkey hwrite =>
      have hproper := hsource.isProper w₁
      have hsize := hsource.size_eq w₁
      have hprivate := hsource.privateExponent_lt w₁
      have hadmits := hsource.admitsPrivate w₁
      rw [hkey] at hproper hsize hprivate hadmits
      exact ⟨w₁, w₂, key, hparent, hkey, rfl, hsize,
        loadSigningKey_of_write hproper hsize hprivate hadmits hwrite⟩
  · have hexists := (provides_of_run hrun).exists?_of_ok
    refine ⟨provided_eq_self source fun other hother => ?_,
      run_provideSigningKey_of_exists source hexists⟩
    rwa [List.eq_of_mem_replicate hother]
  · by_cases hopened : ∀ description, e ≠ .interrupted description
    · have hgrows := (provides_of_run hrun).grows_of_error hsource.keepsFiles hopened
      exact ⟨fun contents => hgrows.file_iff, hgrows.keeps place _⟩
    · exact (provides_of_run hrun).keeps_of_ne hsource.keepsFiles (hplace.resolve_left hopened)

/-- A key in a directory that is made for it, and a key below a file. -/
theorem provideSigningKey_creates_once_nested :
    IsSource (supply Rsa.specimen) ∧
    (∃ w', (provideSigningKey (supply Rsa.specimen) "keys/sk.pem").run occupiedWorld =
        (.ok (), w') ∧
      occupiedWorld.files.exists? "keys/sk.pem" = false ∧
      ((loadSigningKey "keys/sk.pem" : StateM World _).run w').1 = .ok Rsa.specimen ∧
      w'.keyRequests = [(65537, 2048)] ∧
      provided (supply Rsa.mirrored) w' ["keys/sk.pem", "keys/sk.pem"] = w') ∧
    ∃ e w', (provideSigningKey (supply Rsa.specimen) "k.pem/sk.pem").run occupiedWorld =
        (.error e, w') ∧
      ∀ place contents, w'.files.node? place = some (.file contents) ↔
        occupiedWorld.files.node? place = some (.file contents) := by
  have hsource : IsSource (supply Rsa.specimen) :=
    isSource_supply Rsa.isProper_specimen size_specimen (by decide +kernel)
      Rsa.prime_specimenPrime1 Rsa.prime_specimenPrime2
  refine ⟨hsource, ?_, ?_⟩
  · obtain ⟨hanswered, -⟩ := provideSigningKey_creates_once hsource "keys/sk.pem" occupiedWorld
    have hmissing : occupiedWorld.files.exists? "keys/sk.pem" = false := by decide
    have hrun : ∃ w', (provideSigningKey (supply Rsa.specimen) "keys/sk.pem").run occupiedWorld =
        (.ok (), w') := by
      rw [run_provideSigningKey, hmissing, run_provideParent_nested]
      exact ⟨_, rfl⟩
    obtain ⟨w', hrun⟩ := hrun
    obtain ⟨hcreated, hfurther⟩ := hanswered w' hrun
    obtain ⟨w₁, w₂, key, hparent, hkey, hrequests, -, hload⟩ := hcreated hmissing
    obtain rfl := (Prod.mk.inj (run_provideParent_nested.symm.trans hparent)).2
    rw [run_supply] at hkey
    obtain ⟨rfl, rfl⟩ := Prod.mk.inj hkey
    exact ⟨w', hrun, hmissing, hload, hrequests, (hfurther (supply Rsa.mirrored) 2).1⟩
  · obtain ⟨-, hrefused⟩ := provideSigningKey_creates_once hsource "k.pem/sk.pem" occupiedWorld
    have hrun : (provideSigningKey (supply Rsa.specimen) "k.pem/sk.pem").run occupiedWorld =
        (.error (.exists "k.pem"), occupiedWorld) := by
      rw [run_provideSigningKey, if_neg (by decide), run_provideParent_belowFile]
    have hopened : ∀ description, FileError.exists "k.pem" ≠ .interrupted description := by
      rintro description ⟨⟩
    exact ⟨_, _, hrun, fun place => (hrefused _ _ hrun place (.inl hopened)).1⟩

end Rs256Cose.Keys
