import Mathlib
import Rs256Cose.Files.Tree
import Rs256Cose.Proofs.Steps

/-!
# What a write changes

A write is accepted where a path leads to no directory, and makes a file at that place
(`write_eq_ok_iff`). Paths lead where they led before (`walk_put_eq_ok_iff`), so the file holds what
was written (`read_of_write`) and every path that led elsewhere reads as before
(`read_write_of_ne`). `AltersOnly` says the same of any number of writes to some paths.
-/

namespace Rs256Cose.Files.Tree

variable {t t' : Tree} {path other : String} {place q : Place} {contents data : Bytes}

/-- The root is a directory in every tree. -/
theorem ne_nil_of_node?_ne (h : t.node? place ≠ some .directory) : place ≠ [] := by
  rintro rfl
  exact h rfl

/-! ### Following paths -/

theorem walk_cons_eq_ok_iff {name : List Char} {rest : List (List Char)} :
    t.walk path place (name :: rest) = .ok q ↔
      t.node? place = some .directory ∧ t.walk path (step place name) rest = .ok q := by
  rw [walk]
  split
  · next h => simp [h]
  · next h => simp [h]
  · next h => simp [h]

/-- Names lead to a place if all but the last lead to a directory from which the last leads on to
it. -/
theorem walk_concat_eq_ok_iff {names : List (List Char)} {name : List Char} :
    t.walk path place (names ++ [name]) = .ok q ↔
      ∃ above, t.walk path place names = .ok above ∧ t.node? above = some .directory ∧
        q = step above name := by
  induction names generalizing place with
  | nil =>
    rw [List.nil_append, walk_cons_eq_ok_iff]
    refine ⟨?_, ?_⟩
    · rintro ⟨hnode, hq⟩
      exact ⟨place, rfl, hnode, (Except.ok.inj hq).symm⟩
    · rintro ⟨above, habove, hnode, rfl⟩
      obtain rfl : place = above := Except.ok.inj habove
      exact ⟨hnode, rfl⟩
  | cons first names ih =>
    simp only [List.cons_append, walk_cons_eq_ok_iff, ih]
    refine ⟨?_, ?_⟩
    · rintro ⟨hfirst, above, hwalk, hnode, hq⟩
      exact ⟨above, ⟨hfirst, hwalk⟩, hnode, hq⟩
    · rintro ⟨above, ⟨hfirst, hwalk⟩, hnode, hq⟩
      exact ⟨hfirst, above, hwalk, hnode, hq⟩

/-- The text of a path serves its error messages only. -/
theorem walk_eq_ok_iff_walk {names : List (List Char)} :
    t.walk path place names = .ok q ↔ t.walk other place names = .ok q := by
  induction names generalizing place with
  | nil => exact Iff.rfl
  | cons name rest ih => simp only [walk_cons_eq_ok_iff, ih]

/-- A new file where no directory is stands in no way that leads anywhere. -/
theorem walk_put_eq_ok_iff {start : Place} {names : List (List Char)}
    (hplace : t.node? place ≠ some .directory) :
    (t.put place (.file contents)).walk path start names = .ok q ↔
      t.walk path start names = .ok q := by
  have hroot := ne_nil_of_node?_ne hplace
  induction names generalizing start with
  | nil => exact Iff.rfl
  | cons name rest ih =>
    simp only [walk_cons_eq_ok_iff, ih]
    by_cases hstart : start = place
    · subst hstart
      simp [node?_put t start _ hroot, hplace]
    · rw [node?_put_of_ne t _ hstart]

theorem start_eq_ite (t : Tree) (s : List Char) :
    t.start s = if s.head? = some '/' then [] else t.current := by
  unfold start
  split
  · rfl
  · next h =>
    rw [if_neg]
    intro hhead
    obtain ⟨rest, rfl⟩ := List.head?_eq_some_iff.mp hhead
    exact h rest rfl

theorem locate_eq_ok_iff : t.locate path = .ok q ↔ t.complaint? path = none ∧ path.toList ≠ [] ∧
    t.walk path (t.start path.toList) (Path.names path.toList) = .ok q := by
  unfold locate
  simp only
  cases t.complaint? path with
  | some complaint => simp
  | none =>
    simp only [true_and]
    split_ifs with hempty
    · simp [hempty]
    · simp [hempty]

theorem locate_put_eq_ok_iff (hplace : t.node? place ≠ some .directory) :
    (t.put place (.file contents)).locate path = .ok q ↔ t.locate path = .ok q := by
  simp only [locate_eq_ok_iff, walk_put_eq_ok_iff hplace]
  rfl

/-- Without a slash at its end a path leads to one place, whatever it is used for. -/
theorem locateNew_eq_locate (h : path.toList.getLast? ≠ some '/') :
    t.locateNew path = t.locate path := by
  have htrim : (path.toList.reverse.dropWhile (· = '/')).reverse = path.toList := by
    apply List.rdropWhile_eq_self_iff.mpr
    intro hne hlast
    rw [List.getLast?_eq_some_getLast hne, of_decide_eq_true hlast] at h
    exact h rfl
  unfold locateNew locate
  simp only [htrim]

/-! ### Reading and writing -/

theorem read_eq_ok_iff : t.read path = .ok data ↔
    ∃ place, t.locate path = .ok place ∧ t.node? place = some (.file data) := by
  unfold read
  rw [bind_eq_ok_iff]
  refine exists_congr fun place => and_congr_right fun _ => ?_
  split
  · next h => simp [h]
  · next h => simp [h]
  · next h => simp [h]

theorem write_eq_ok_iff : t.write path contents = .ok t' ↔
    ∃ place, t.locate path = .ok place ∧ path.toList.getLast? ≠ some '/' ∧
      t.node? place ≠ some .directory ∧ t' = t.put place (.file contents) := by
  unfold write
  rw [bind_eq_ok_iff]
  refine ⟨?_, ?_⟩
  · rintro ⟨place, hlocate, hput⟩
    split_ifs at hput with h
    obtain ⟨hslash, hnode⟩ := not_or.mp h
    rw [locateNew_eq_locate hslash] at hlocate
    exact ⟨place, hlocate, hslash, hnode, (Except.ok.inj hput).symm⟩
  · rintro ⟨place, hlocate, hslash, hnode, rfl⟩
    rw [← locateNew_eq_locate hslash] at hlocate
    exact ⟨place, hlocate, if_neg (not_or.mpr ⟨hslash, hnode⟩)⟩

/-- What was written is read back. -/
theorem read_of_write (h : t.write path contents = .ok t') : t'.read path = .ok contents := by
  obtain ⟨place, hlocate, -, hnode, rfl⟩ := write_eq_ok_iff.mp h
  exact read_eq_ok_iff.mpr ⟨place, (locate_put_eq_ok_iff hnode).mpr hlocate,
    node?_put t place _ (ne_nil_of_node?_ne hnode)⟩

/-- Whether two paths lead to one place in a tree. -/
def SamePlace (t : Tree) (path other : String) : Prop :=
  ∃ place, t.locate path = .ok place ∧ t.locate other = .ok place

theorem SamePlace.symm (h : t.SamePlace path other) : t.SamePlace other path := by
  obtain ⟨place, hpath, hother⟩ := h
  exact ⟨place, hother, hpath⟩

/-! ### Paths that cannot be used -/

theorem complaint?_eq_none_iff :
    t.complaint? path = none ↔ ∀ c ∈ path.toList, t.isUsable c = true := by
  rw [← List.all_eq_true, complaint?]
  split_ifs with husable
  · simp [husable]
  · simp [husable]
  · simp [husable]

/-- What is said of a path does not depend on what stands in the tree. -/
theorem complaint?_of_write (h : t.write path contents = .ok t') (other : String) :
    t'.complaint? other = t.complaint? other := by
  obtain ⟨place, -, -, -, rfl⟩ := write_eq_ok_iff.mp h
  rfl

/-- The characters of ASCII can be used, all but one. -/
theorem isUsable_of_ascii {c : Char} (hne : c ≠ '\x00') (hascii : c.toNat < 128) :
    t.isUsable c = true := by
  rw [isUsable, t.encoding.encodes_ascii c hascii, Bool.and_true, bne_iff_ne]
  exact hne

/-- Names lead nowhere for want of a directory only. -/
theorem walk_error_cases {names : List (List Char)} {e : FileError}
    (h : t.walk path place names = .error e) : e = .notFound path ∨ e = .notDirectory path := by
  induction names generalizing place with
  | nil => cases h
  | cons name rest ih =>
    rw [walk] at h
    split at h
    · exact .inl (Except.error.inj h).symm
    · exact .inr (Except.error.inj h).symm
    · exact ih h

theorem walk_ne_unusable {names : List (List Char)} {complaint : String} :
    t.walk path place names ≠ .error (.unusable complaint) := by
  intro h
  rcases walk_error_cases h with ⟨⟨⟩⟩ | ⟨⟨⟩⟩

theorem locate_eq_unusable_iff {complaint : String} :
    t.locate path = .error (.unusable complaint) ↔ t.complaint? path = some complaint := by
  unfold locate
  simp only
  cases t.complaint? path with
  | some complaint' => simp
  | none => split_ifs <;> simp [walk_ne_unusable]

theorem locateNew_eq_unusable_iff {complaint : String} :
    t.locateNew path = .error (.unusable complaint) ↔ t.complaint? path = some complaint := by
  unfold locateNew
  simp only
  cases t.complaint? path with
  | some complaint' => simp
  | none => split_ifs <;> simp [walk_ne_unusable]

/-- An operation on a path never reaches the system if and only if the path cannot be used. -/
theorem read_eq_unusable_iff {complaint : String} :
    t.read path = .error (.unusable complaint) ↔ t.complaint? path = some complaint := by
  rw [← locate_eq_unusable_iff]
  unfold read
  cases t.locate path with
  | error e => simp [Except.bind]
  | ok place =>
    simp only [Except.bind, reduceCtorEq, iff_false]
    split <;> rintro ⟨⟩

theorem write_eq_unusable_iff {complaint : String} :
    t.write path contents = .error (.unusable complaint) ↔
      t.complaint? path = some complaint := by
  rw [← locateNew_eq_unusable_iff]
  unfold write
  cases t.locateNew path with
  | error e => simp [Except.bind]
  | ok place =>
    simp only [Except.bind, reduceCtorEq, iff_false]
    split_ifs <;> rintro ⟨⟩

/-- The files themselves never break off a write. -/
theorem write_ne_interrupted {description : String} :
    t.write path contents ≠ .error (.interrupted description) := by
  unfold write
  refine bind_ne_error ?_ fun place _ => ?_
  · unfold locateNew
    simp only
    split
    · rintro ⟨⟩
    · split_ifs
      · rintro ⟨⟩
      · intro h
        rcases walk_error_cases h with ⟨⟨⟩⟩ | ⟨⟨⟩⟩
  · split_ifs <;> rintro ⟨⟩

/-! ### What stays -/

/-- Between the trees nothing changed but what stands at places that some paths lead to. -/
structure AltersOnly (paths : String → Prop) (t t' : Tree) : Prop where
  locate_iff : ∀ path place, t'.locate path = .ok place ↔ t.locate path = .ok place
  node?_eq : ∀ place, (∀ path, paths path → t.locate path ≠ .ok place) →
    t'.node? place = t.node? place

namespace AltersOnly

variable {paths : String → Prop} {t'' : Tree}

theorem refl (t : Tree) : AltersOnly paths t t := ⟨fun _ _ => Iff.rfl, fun _ _ => rfl⟩

theorem trans (h : AltersOnly paths t t') (h' : AltersOnly paths t' t'') :
    AltersOnly paths t t'' where
  locate_iff path place := (h'.locate_iff path place).trans (h.locate_iff path place)
  node?_eq place hplace := by
    refine (h'.node?_eq place fun path hpath hlocate => ?_).trans (h.node?_eq place hplace)
    exact hplace path hpath ((h.locate_iff path place).mp hlocate)

theorem of_write (hpath : paths path) (h : t.write path contents = .ok t') :
    AltersOnly paths t t' := by
  obtain ⟨place, hlocate, -, hnode, rfl⟩ := write_eq_ok_iff.mp h
  refine ⟨fun other q => locate_put_eq_ok_iff hnode, fun other hother => ?_⟩
  apply node?_put_of_ne
  rintro rfl
  exact hother path hpath hlocate

/-- A path that leads to none of the places reads as before. -/
theorem read_iff (h : AltersOnly paths t t')
    (hother : ∀ path, paths path → ¬ t.SamePlace path other) :
    t'.read other = .ok data ↔ t.read other = .ok data := by
  rw [read_eq_ok_iff, read_eq_ok_iff]
  refine exists_congr fun place => ?_
  rw [h.locate_iff]
  refine and_congr_right fun hlocate => ?_
  rw [h.node?_eq place fun path hpath hpath' => hother path hpath ⟨place, hpath', hlocate⟩]

end AltersOnly

/-- A path that leads elsewhere reads after a write what it read before. -/
theorem read_write_of_ne (h : t.write path contents = .ok t') (hne : ¬ t.SamePlace path other) :
    t'.read other = .ok data ↔ t.read other = .ok data := by
  have halters : AltersOnly (· = path) t t' := .of_write rfl h
  apply halters.read_iff
  rintro _ rfl
  exact hne

/-! ### What becomes of a write -/

section

variable {answer : Except FileError Unit}

/-- The three ways that a write can end: all of the contents are stored, nothing happens, or the
write breaks off with a front part of the contents in the file. -/
theorem store_cases (h : t.store path contents = (answer, t')) :
    (answer = .ok () ∧ t.write path contents = .ok t' ∧ t.fault path contents = none) ∨
    (∃ e, answer = .error e ∧ (∀ description, e ≠ .interrupted description) ∧ t' = t) ∨
    ∃ description kept, answer = .error (.interrupted description) ∧
      t.write path (contents.take kept) = .ok t' := by
  unfold store at h
  simp only at h
  split at h
  · next e hwrite =>
    obtain ⟨rfl, rfl⟩ := Prod.mk.inj h
    refine .inr (.inl ⟨e, rfl, ?_, rfl⟩)
    rintro description rfl
    exact write_ne_interrupted hwrite
  · next files hwrite hfault =>
    obtain ⟨rfl, rfl⟩ := Prod.mk.inj h
    rw [hfault] at hwrite
    exact .inl ⟨rfl, hwrite, hfault⟩
  · obtain ⟨rfl, rfl⟩ := Prod.mk.inj h
    exact .inr (.inl ⟨_, rfl, nofun, rfl⟩)
  · next files kept description hwrite hfault =>
    obtain ⟨rfl, rfl⟩ := Prod.mk.inj h
    rw [hfault] at hwrite
    exact .inr (.inr ⟨description, kept, rfl, hwrite⟩)

theorem store_eq_ok_iff : t.store path contents = (.ok (), t') ↔
    t.write path contents = .ok t' ∧ t.fault path contents = none := by
  refine ⟨fun h => ?_, ?_⟩
  · rcases store_cases h with ⟨-, hwritten⟩ | ⟨e, ⟨⟩, -⟩ | ⟨_, _, ⟨⟩, -⟩
    exact hwritten
  · rintro ⟨hwrite, hfault⟩
    simp only [store, hfault, Fault.stored, hwrite]

/-- A path that cannot be used is the one cause for which a write never reaches the system. -/
theorem store_eq_unusable_iff {complaint : String} :
    t.store path contents = (.error (.unusable complaint), t') ↔
      t.complaint? path = some complaint ∧ t' = t := by
  have hrefused : t.write path (Fault.stored contents (t.fault path contents)) =
      .error (.unusable complaint) ↔ t.complaint? path = some complaint := write_eq_unusable_iff
  rw [← hrefused]
  unfold store
  simp only
  split
  · next e hwrite => simp [hwrite, eq_comm]
  · next hwrite hfault => simp [hwrite]
  · next hwrite hfault => simp [hwrite]
  · next hwrite hfault => simp [hwrite]

/-- Whatever becomes of a write, only what stands at its path can be different. -/
theorem altersOnly_store {paths : String → Prop} (hpath : paths path) :
    AltersOnly paths t (t.store path contents).2 := by
  rcases hstore : t.store path contents with ⟨answer, t'⟩
  rcases store_cases hstore with ⟨-, hwrite, -⟩ | ⟨e, -, -, rfl⟩ | ⟨_, _, -, hwrite⟩
  · exact .of_write hpath hwrite
  · exact .refl _
  · exact .of_write hpath hwrite

end

end Rs256Cose.Files.Tree
