import Mathlib
import Rs256Cose.Files.Directories
import Rs256Cose.Proofs.Files.Path

/-!
# Trees that grow

Making directories takes nothing away and adds no file (`Grows`, `growing_makeDirectories`), but it
can change where a path leads: `a/..` exists as soon as `a` does. In a tree that has grown, a path
leads to something old only if it led there before or went up from a place that did not exist
(`Climbs`, `locate_of_grows`). So a file that is written there because the path led to nothing
replaces something old only if the path climbs (`kept_or_climbs`).
-/

namespace Rs256Cose.Files

namespace Tree

variable {t t' t'' : Tree} {path : String} {start place q : Place} {node : Node}
  {names : List (List Char)} {contents : Bytes}

/-! ### Rooted trees -/

/-- Everything in the tree is in a directory. -/
def Rooted (t : Tree) : Prop :=
  ∀ place node, t.node? place = some node → t.node? place.dropLast = some .directory

theorem Rooted.missing_below (h : t.Rooted) (hplace : t.node? place = none) (name : String) :
    t.node? (place ++ [name]) = none := by
  cases hnode : t.node? (place ++ [name]) with
  | none => rfl
  | some node =>
    have habove := h _ _ hnode
    rw [List.dropLast_concat, hplace] at habove
    cases habove

/-- What a path leads to is in a directory, even if it does not exist. -/
theorem Rooted.dropLast_of_walk (h : t.Rooted) (hnames : names ≠ [])
    (hwalk : t.walk path start names = .ok q) (hq : t.node? q ≠ some .directory) :
    t.node? q.dropLast = some .directory := by
  obtain ⟨front, name, rfl⟩ := (List.eq_nil_or_concat names).resolve_left hnames
  rw [List.concat_eq_append] at hwalk
  obtain ⟨above, -, habove, rfl⟩ := walk_concat_eq_ok_iff.mp hwalk
  unfold step at hq ⊢
  split_ifs at hq ⊢
  · exact absurd habove hq
  · exact absurd (h _ _ habove) hq
  · rwa [List.dropLast_concat]

theorem Rooted.put (h : t.Rooted) (hplace : t.node? place ≠ some .directory)
    (habove : t.node? place.dropLast = some .directory) : (t.put place node).Rooted := by
  intro other found hfound
  have hdirectory : t.node? other.dropLast = some .directory := by
    by_cases hother : other = place
    · rwa [hother]
    · rw [node?_put_of_ne t _ hother] at hfound
      exact h _ _ hfound
  have hne : other.dropLast ≠ place := by
    intro heq
    rw [heq] at hdirectory
    exact hplace hdirectory
  rw [node?_put_of_ne t _ hne]
  exact hdirectory

theorem Rooted.write (h : t.Rooted) (hwrite : t.write path contents = .ok t') : t'.Rooted := by
  obtain ⟨place, hlocate, -, hplace, rfl⟩ := write_eq_ok_iff.mp hwrite
  obtain ⟨-, -, hwalk⟩ := locate_eq_ok_iff.mp hlocate
  exact h.put hplace (h.dropLast_of_walk (Path.names_ne_nil _) hwalk hplace)

theorem rooted_workingIn (name : String) : (workingIn [name]).Rooted := by
  intro place node hnode
  have hroot : place.dropLast = [] := by
    by_cases hplace : place = [name]
    · rw [hplace]
      rfl
    · by_contra hne
      have hne' : place ≠ [] := by
        rintro rfl
        exact hne rfl
      have hother : (place == [name]) = false := by simpa using hplace
      simp [node?, workingIn, hne', List.lookup_cons, hother] at hnode
  rw [hroot]
  rfl

/-! ### Growth -/

/-- The second tree has all that the first has and nothing more but directories, and is rooted if
the first is. -/
structure Grows (t t' : Tree) : Prop where
  current_eq : t'.current = t.current
  encoding_eq : t'.encoding = t.encoding
  keeps : ∀ place node, t.node? place = some node → t'.node? place = some node
  adds : ∀ place node, t'.node? place = some node → t.node? place = some node ∨ node = .directory
  rooted : t.Rooted → t'.Rooted

theorem Grows.refl (t : Tree) : t.Grows t := ⟨rfl, rfl, fun _ _ => id, fun _ _ => .inl, id⟩

theorem Grows.trans (h : t.Grows t') (h' : t'.Grows t'') : t.Grows t'' where
  current_eq := h'.current_eq.trans h.current_eq
  encoding_eq := h'.encoding_eq.trans h.encoding_eq
  keeps place node hnode := h'.keeps place node (h.keeps place node hnode)
  adds place node hnode := (h'.adds place node hnode).elim (h.adds place node) .inr
  rooted hrooted := h'.rooted (h.rooted hrooted)

/-- The files are the same ones. -/
theorem Grows.file_iff (h : t.Grows t') :
    t'.node? place = some (.file contents) ↔ t.node? place = some (.file contents) := by
  refine ⟨fun hfile => ?_, h.keeps place _⟩
  rcases h.adds place _ hfile with hold | ⟨⟨⟩⟩
  exact hold

theorem walk_of_locateNew (h : t.locateNew path = .ok q) :
    ∃ names, names ≠ [] ∧ t.walk path (t.start path.toList) names = .ok q := by
  unfold locateNew at h
  simp only at h
  split at h
  · cases h
  · split_ifs at h
    exact ⟨_, Path.names_ne_nil _, h⟩

theorem makeDirectory_eq_ok_iff : t.makeDirectory path = .ok t' ↔
    ∃ place, t.locateNew path = .ok place ∧ t.node? place = none ∧
      t' = t.put place .directory := by
  unfold makeDirectory
  rw [bind_eq_ok_iff]
  refine exists_congr fun place => and_congr_right fun _ => ?_
  split
  · next h => simp [h]
  · next h => simp [h, eq_comm]

theorem grows_makeDirectory (h : t.makeDirectory path = .ok t') : t.Grows t' := by
  obtain ⟨place, hlocate, hplace, rfl⟩ := makeDirectory_eq_ok_iff.mp h
  have hmissing : t.node? place ≠ some .directory := by simp [hplace]
  refine ⟨rfl, rfl, fun other node hnode => ?_, fun other node hnode => ?_, fun hrooted => ?_⟩
  · have hne : other ≠ place := by
      rintro rfl
      rw [hplace] at hnode
      cases hnode
    rw [node?_put_of_ne t _ hne, hnode]
  · by_cases hother : other = place
    · rw [hother, node?_put t _ _ (ne_nil_of_node?_ne hmissing)] at hnode
      exact .inr (Option.some.inj hnode).symm
    · rw [node?_put_of_ne t _ hother] at hnode
      exact .inl hnode
  · obtain ⟨names, hnames, hwalk⟩ := walk_of_locateNew hlocate
    exact hrooted.put hmissing (hrooted.dropLast_of_walk hnames hwalk hmissing)

/-! ### Where paths lead -/

/-- Names that go up from a place that does not exist. -/
def ClimbsFrom (t : Tree) (path : String) (start : Place) (names : List (List Char)) : Prop :=
  ∃ front rest, names = front ++ ['.', '.'] :: rest ∧
    t.walk path start (front ++ [['.', '.']]) = .error (.notFound path)

/-- A path that goes up from a place that does not exist. -/
def Climbs (t : Tree) (path : String) : Prop :=
  t.ClimbsFrom path (t.start path.toList) (Path.names path.toList)

theorem not_climbs_of_names (h : ['.', '.'] ∉ Path.names path.toList) : ¬ t.Climbs path := by
  rintro ⟨front, rest, hnames, -⟩
  rw [hnames] at h
  exact h (List.mem_append_right _ List.mem_cons_self)

/-- From a place that does not exist, only going up leads to one that does. -/
theorem Rooted.missing_of_walk (h : t.Rooted) (hstart : t.node? start = none)
    (hnames : ['.', '.'] ∉ names) (hwalk : t'.walk path start names = .ok q) :
    t.node? q = none := by
  induction names generalizing start with
  | nil =>
    obtain rfl : start = q := Except.ok.inj hwalk
    exact hstart
  | cons name rest ih =>
    have hname := List.ne_of_not_mem_cons hnames
    have hrest := List.not_mem_of_not_mem_cons hnames
    obtain ⟨-, hwalk⟩ := walk_cons_eq_ok_iff.mp hwalk
    refine ih ?_ hrest hwalk
    unfold step
    split_ifs with htrivial hup
    · exact hstart
    · exact absurd hup.symm hname
    · exact h.missing_below hstart _

theorem climbsFrom_of_missing (hrooted : t.Rooted) (hstart : t.node? start = none)
    (hwalk : t'.walk path start names = .ok q) (hq : t.node? q = some node) :
    t.ClimbsFrom path start names := by
  have hup : ['.', '.'] ∈ names := by
    by_contra hnames
    rw [hrooted.missing_of_walk hstart hnames hwalk] at hq
    cases hq
  obtain ⟨front, rest, rfl⟩ := List.append_of_mem hup
  refine ⟨front, rest, rfl, ?_⟩
  cases front with
  | nil => simp [walk, hstart]
  | cons name front => simp [walk, hstart]

/-- The names lead through old directories until one of them leads to a place that was missing. -/
theorem walk_of_grows (h : t.Grows t') (hrooted : t.Rooted)
    (hwalk : t'.walk path start names = .ok q) (hq : t.node? q = some node) :
    t.walk path start names = .ok q ∨ t.ClimbsFrom path start names := by
  induction names generalizing start with
  | nil => exact .inl hwalk
  | cons name rest ih =>
    obtain ⟨hdirectory, hrest⟩ := walk_cons_eq_ok_iff.mp hwalk
    cases hstart : t.node? start with
    | none => exact .inr (climbsFrom_of_missing hrooted hstart hwalk hq)
    | some old =>
      obtain rfl : old = .directory := by
        have hkept := h.keeps _ _ hstart
        rw [hdirectory] at hkept
        exact (Option.some.inj hkept).symm
      rcases ih hrest with hold | ⟨front, rest, rfl, hfront⟩
      · exact .inl (walk_cons_eq_ok_iff.mpr ⟨hstart, hold⟩)
      · refine .inr ⟨name :: front, rest, rfl, ?_⟩
        rw [List.cons_append, walk, hstart]
        exact hfront

theorem locate_of_grows (h : t.Grows t') (hrooted : t.Rooted) (hlocate : t'.locate path = .ok q)
    (hq : t.node? q = some node) : t.locate path = .ok q ∨ t.Climbs path := by
  obtain ⟨husable, hempty, hwalk⟩ := locate_eq_ok_iff.mp hlocate
  have husable : t.complaint? path = none := by
    simp only [complaint?_eq_none_iff, isUsable, h.encoding_eq] at husable ⊢
    exact husable
  have hstart : t'.start path.toList = t.start path.toList := by
    unfold Tree.start
    rw [h.current_eq]
  rw [hstart] at hwalk
  exact (walk_of_grows h hrooted hwalk hq).imp
    (fun hold => locate_eq_ok_iff.mpr ⟨husable, hempty, hold⟩) id

/-! ### Writing where nothing was -/

theorem exists?_eq_true_iff : t.exists? path = true ↔
    ∃ place node, t.locate path = .ok place ∧ t.node? place = some node := by
  unfold exists?
  split
  · next place h => simp [h, Option.isSome_iff_exists]
  · next h => simp [h]

/-- What was written is there. -/
theorem exists?_of_write (h : t.write path contents = .ok t') : t'.exists? path = true := by
  obtain ⟨place, hlocate, hfile⟩ := read_eq_ok_iff.mp (read_of_write h)
  exact exists?_eq_true_iff.mpr ⟨place, _, hlocate, hfile⟩

/-- A file written to a path that led to nothing before the tree grew. -/
theorem kept_or_climbs (h : t.Grows t') (hrooted : t.Rooted) (hexists : t.exists? path = false)
    (hwrite : t'.write path contents = .ok t'') (hnode : t.node? place = some node) :
    t''.node? place = some node ∨ t.Climbs path ∧ t''.locate path = .ok place ∧
      t''.node? place = some (.file contents) := by
  obtain ⟨q, hlocate, -, hq, rfl⟩ := write_eq_ok_iff.mp hwrite
  by_cases hplace : place = q
  · subst hplace
    refine .inr ⟨?_, (locate_put_eq_ok_iff hq).mpr hlocate,
      node?_put t' _ _ (ne_nil_of_node?_ne hq)⟩
    rcases locate_of_grows h hrooted hlocate hnode with hold | hclimbs
    · have hthere := exists?_eq_true_iff.mpr ⟨place, node, hold, hnode⟩
      rw [hexists] at hthere
      cases hthere
    · exact hclimbs
  · rw [node?_put_of_ne t' _ hplace]
    exact .inl (h.keeps _ _ hnode)

end Tree

/-! ### Making directories -/

/-- A step after which the files have grown, whatever it answers. -/
def Growing {α : Type} (step : StateM World α) : Prop :=
  ∀ w : World, w.files.Grows (step.run w).2.files

section

variable {α β : Type}

theorem growing_pure (a : α) : Growing (pure a) := fun w => Tree.Grows.refl w.files

theorem Growing.bind {step : StateM World α} {next : α → StateM World β} (h : Growing step)
    (hnext : ∀ a, Growing (next a)) : Growing (step >>= next) :=
  fun w => Tree.Grows.trans (h w) (hnext _ _)

end

theorem growing_exists? (path : String) : Growing (Host.exists? path : StateM World Bool) :=
  fun w => Tree.Grows.refl w.files

theorem growing_isDirectory (path : String) :
    Growing (Host.isDirectory path : StateM World Bool) :=
  fun w => Tree.Grows.refl w.files

theorem growing_makeDirectory (path : String) :
    Growing (Host.makeDirectory path : StateM World _) := by
  intro w
  change w.files.Grows (w.makeDirectory path).2.files
  unfold World.makeDirectory
  split
  · next hmade => exact Tree.grows_makeDirectory hmade
  · exact .refl w.files

theorem growing_provideDirectory (path : String) :
    Growing (provideDirectory path : StateM World _) := by
  unfold provideDirectory
  refine (growing_makeDirectory path).bind fun answer => ?_
  split
  · exact growing_pure _
  · exact growing_pure _
  · exact (growing_isDirectory path).bind fun _ => growing_pure _

theorem growing_provideLineage (lineage : List (String × String)) :
    Growing (provideLineage lineage : StateM World _) := by
  induction lineage with
  | nil => exact growing_pure _
  | cons first rest ih =>
    cases rest with
    | nil => exact growing_provideDirectory first.1
    | cons second rest =>
      refine (growing_exists? second.1).bind fun there => ?_
      split
      · exact growing_provideDirectory first.1
      · refine ih.bind fun answer => ?_
        split
        · split
          · exact growing_pure _
          · exact growing_provideDirectory first.1
        · split
          · exact growing_pure _
          · exact growing_provideDirectory first.1
        · exact growing_pure _

theorem growing_makeDirectories (path : String) :
    Growing (makeDirectories path : StateM World _) :=
  growing_provideLineage _

end Rs256Cose.Files
