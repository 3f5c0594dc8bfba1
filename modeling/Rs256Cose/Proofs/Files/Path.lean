import Mathlib
import Rs256Cose.Proofs.Files.Tree

/-!
# Files beside each other

The tidy form of a path and the paths that differ from it in the suffix are siblings: they differ
in the last name alone (`tidy_eq_sibling`, `withSuffix?_eq_some_iff`). Siblings of different names
lead to different places (`not_samePlace_sibling`), so files beside a path never share one
(`not_samePlace_withSuffix`), nor does one of them with the path itself unless the two are the same
text (`not_samePlace_tidy`). A suffix with a further dot never leads the root of a path back to it
(`not_samePlace_root`). `WritesBeside` is a write to a file beside a path, which leaves the others
and the file at the path alone.
-/

namespace Rs256Cose.Files

namespace Path

/-! ### Cuts -/

section

variable {c : Char} {s before after : List Char}

theorem cutLast_append (before : List Char) (h : c ∉ after) :
    cutLast c (before ++ c :: after) = some (before, after) := by
  have hrev : (before ++ c :: after).reverse = after.reverse ++ c :: before.reverse := by simp
  have hwhile : (before ++ c :: after).reverse.takeWhile (· ≠ c) = after.reverse := by
    rw [hrev, List.takeWhile_append_of_pos, List.takeWhile_cons_of_neg (by simp), List.append_nil]
    intro d hd
    refine decide_eq_true ?_
    rintro rfl
    exact h (List.mem_reverse.mp hd)
  unfold cutLast
  simp only [hwhile, List.reverse_reverse, List.length_append, List.length_cons]
  rw [if_neg (by omega)]
  have hcut : before.length + (after.length + 1) - after.length - 1 = before.length := by omega
  rw [hcut, List.take_left]

theorem exists_eq_append_cons_last (h : c ∈ s) : ∃ before after, s = before ++ c :: after ∧
    c ∉ after := by
  obtain ⟨after, before, hs, hafter⟩ := List.eq_append_cons_of_mem (List.mem_reverse.mpr h)
  refine ⟨before.reverse, after.reverse, ?_, List.mem_reverse.not.mpr hafter⟩
  rw [← List.reverse_reverse s, hs]
  simp

theorem cutLast_eq_none_iff : cutLast c s = none ↔ c ∉ s := by
  refine ⟨fun h hc => ?_, fun hc => ?_⟩
  · obtain ⟨before, after, rfl, hafter⟩ := exists_eq_append_cons_last hc
    rw [cutLast_append before hafter] at h
    cases h
  · have hwhile : s.reverse.takeWhile (· ≠ c) = s.reverse := by
      rw [List.takeWhile_eq_self_iff]
      intro d hd
      refine decide_eq_true ?_
      rintro rfl
      exact hc (List.mem_reverse.mp hd)
    unfold cutLast
    simp only [hwhile, List.reverse_reverse, if_pos]

/-- A text is cut where nothing of the kind comes after. -/
theorem cutLast_eq_some_iff :
    cutLast c s = some (before, after) ↔ s = before ++ c :: after ∧ c ∉ after := by
  refine ⟨fun h => ?_, ?_⟩
  · have hc : c ∈ s := by
      rw [← not_not (a := c ∈ s), ← cutLast_eq_none_iff, h]
      rintro ⟨⟩
    obtain ⟨before', after', rfl, hafter⟩ := exists_eq_append_cons_last hc
    rw [cutLast_append before' hafter] at h
    obtain ⟨rfl, rfl⟩ := Prod.mk.inj (Option.some.inj h)
    exact ⟨rfl, hafter⟩
  · rintro ⟨rfl, h⟩
    exact cutLast_append before h

end

/-! ### Names -/

/-- A name that counts in a path. -/
structure IsName (name : List Char) : Prop where
  ne_nil : name ≠ []
  ne_dot : name ≠ ['.']
  no_slash : '/' ∉ name

theorem no_slash_of_mem_names {s name : List Char} (h : name ∈ names s) : '/' ∉ name := by
  induction s generalizing name with
  | nil =>
    obtain rfl : name = [] := List.mem_singleton.mp h
    exact List.not_mem_nil
  | cons c rest ih =>
    unfold names at h
    split_ifs at h with hc
    · rcases List.mem_cons.mp h with rfl | h
      · exact List.not_mem_nil
      · exact ih h
    · split at h
      · next first more hnames =>
        rw [hnames] at ih
        rcases List.mem_cons.mp h with rfl | h
        · have hfirst := ih List.mem_cons_self
          intro hmem
          rcases List.mem_cons.mp hmem with hslash | hmem
          · exact hc hslash.symm
          · exact hfirst hmem
        · exact ih (List.mem_cons_of_mem _ h)
      · obtain rfl : name = [c] := List.mem_singleton.mp h
        simpa using Ne.symm hc

theorem isName_of_mem_properNames {s name : List Char} (h : name ∈ properNames s) :
    IsName name := by
  obtain ⟨hmem, hproper⟩ := List.mem_filter.mp h
  obtain ⟨hnil, hdot⟩ := of_decide_eq_true hproper
  exact ⟨hnil, hdot, no_slash_of_mem_names hmem⟩

theorem names_eq_splitOn (s : List Char) : names s = s.splitOn '/' := by
  induction s with
  | nil => rfl
  | cons c rest ih =>
    rw [names, ih, List.splitOn_cons_eq_if_modifyHead]
    by_cases hc : c = '/'
    · rw [if_pos hc, if_pos (beq_iff_eq.mpr hc)]
    · rw [if_neg hc, if_neg (by simpa using hc)]
      cases hsplit : rest.splitOn '/' with
      | nil => exact absurd hsplit (List.splitOnP_ne_nil _ _)
      | cons name more => rfl

theorem names_ne_nil (s : List Char) : names s ≠ [] := by
  rw [names_eq_splitOn]
  exact List.splitOn_ne_nil _ _

/-- Names put together with slashes are told apart again. -/
theorem names_intercalate {parts : List (List Char)} (hne : parts ≠ [])
    (hparts : ∀ name ∈ parts, IsName name) : names (['/'].intercalate parts) = parts := by
  rw [names_eq_splitOn]
  exact List.splitOn_intercalate '/' (fun name hname => (hparts name hname).no_slash) hne

theorem names_of_no_slash {name : List Char} (h : '/' ∉ name) : names name = [name] := by
  have hname : ['/'].intercalate [name] = name := List.intercalate_singleton
  rw [names_eq_splitOn]
  conv => lhs; rw [← hname]
  exact List.splitOn_intercalate '/' (by simpa using h) (List.cons_ne_nil _ _)

theorem names_append_slash (before after : List Char) :
    names (before ++ '/' :: after) = names before ++ names after := by
  simp only [names_eq_splitOn]
  exact List.splitOnP_append_cons before after (beq_self_eq_true '/')

/-! ### Siblings -/

/-- The tidy path with another last name. -/
def sibling (path : String) (name : List Char) : String :=
  joined (rootSlashes path.toList) ((properNames path.toList).dropLast ++ [name])

theorem tidy_eq_sibling {path : String} {name : List Char}
    (h : (properNames path.toList).getLast? = some name) : tidy path = sibling path name := by
  rw [tidy, sibling, List.dropLast_append_getLast? name h]

theorem withSuffix?_eq_some_iff {path suffix target : String} :
    withSuffix? path suffix = some target ↔ ∃ name,
      (properNames path.toList).getLast? = some name ∧
        target = sibling path (stem name ++ suffix.toList) := by
  unfold withSuffix?
  simp only
  split
  · next h => simp [h]
  · next name h => simp [h, sibling, eq_comm]

/-- Beside a path without names there is nothing. -/
theorem withSuffix?_eq_none_iff {path suffix : String} :
    withSuffix? path suffix = none ↔ properNames path.toList = [] := by
  rw [← List.getLast?_eq_none_iff]
  unfold withSuffix?
  simp only
  split
  · next h => simp [h]
  · next name h => simp [h]

theorem isName_of_getLast? {path : String} {name : List Char}
    (h : (properNames path.toList).getLast? = some name) : IsName name :=
  isName_of_mem_properNames (List.mem_of_getLast? h)

theorem toList_joined {parts : List (List Char)} (slashes : List Char)
    (h : ['/'].intercalate parts ≠ []) :
    (joined slashes parts).toList = slashes ++ ['/'].intercalate parts := by
  unfold joined
  split
  · next hnil => exact absurd (List.append_eq_nil_iff.mp hnil).2 h
  · exact String.toList_ofList

/-- Names put together begin with a character of the first of them. -/
theorem exists_intercalate_eq_cons {parts : List (List Char)} (hne : parts ≠ [])
    (hparts : ∀ name ∈ parts, IsName name) :
    ∃ c rest, ['/'].intercalate parts = c :: rest ∧ c ≠ '/' := by
  cases parts with
  | nil => exact absurd rfl hne
  | cons name parts =>
    obtain ⟨hname, -⟩ := List.forall_mem_cons.mp hparts
    cases hcons : name with
    | nil => exact absurd hcons hname.ne_nil
    | cons c cs =>
      have hc : c ≠ '/' := by
        rintro rfl
        exact hname.no_slash (hcons ▸ List.mem_cons_self)
      cases parts with
      | nil => exact ⟨c, cs, List.intercalate_singleton, hc⟩
      | cons next parts =>
        refine ⟨c, cs ++ ['/'] ++ ['/'].intercalate (next :: parts), ?_, hc⟩
        rw [List.intercalate_cons_cons]
        rfl

theorem rootSlashes_cases (s : List Char) :
    rootSlashes s = [] ∨ rootSlashes s = ['/'] ∨ rootSlashes s = ['/', '/'] := by
  unfold rootSlashes
  split <;> simp

/-- The names that lead to where the siblings of a path are. -/
def front (path : String) : List (List Char) :=
  (rootSlashes path.toList).map (fun _ => []) ++ (properNames path.toList).dropLast

section

variable {path : String} {name : List Char}

theorem isName_of_mem_sibling (path : String) (hname : IsName name) :
    ∀ part ∈ (properNames path.toList).dropLast ++ [name], IsName part := by
  intro part hpart
  rcases List.mem_append.mp hpart with h | h
  · exact isName_of_mem_properNames (List.mem_of_mem_dropLast h)
  · exact List.mem_singleton.mp h ▸ hname

theorem toList_sibling (hname : IsName name) : (sibling path name).toList =
    rootSlashes path.toList ++
      ['/'].intercalate ((properNames path.toList).dropLast ++ [name]) := by
  obtain ⟨c, rest, hcons, -⟩ :=
    exists_intercalate_eq_cons (List.concat_ne_nil _ _) (isName_of_mem_sibling path hname)
  exact toList_joined _ (hcons ▸ List.cons_ne_nil c rest)

theorem names_sibling (hname : IsName name) :
    names (sibling path name).toList = front path ++ [name] := by
  have hparts := names_intercalate (List.concat_ne_nil _ _)
    (isName_of_mem_sibling path hname)
  rw [toList_sibling hname, front]
  rcases rootSlashes_cases path.toList with h | h | h
  · simp [h, hparts]
  · simp [h, hparts, names]
  · simp [h, hparts, names]

theorem start_sibling (t : Tree) (hname : IsName name) :
    t.start (sibling path name).toList =
      if rootSlashes path.toList = [] then t.current else [] := by
  obtain ⟨c, rest, hcons, hc⟩ :=
    exists_intercalate_eq_cons (List.concat_ne_nil _ _) (isName_of_mem_sibling path hname)
  rw [toList_sibling hname, hcons, Tree.start_eq_ite]
  rcases rootSlashes_cases path.toList with h | h | h
  · simp [h, hc]
  · simp [h]
  · simp [h]

end

/-- A name leads from a directory to where no other does, unless it is that of the directory above
or stands for the directory itself. -/
theorem step_ne_step (above : Place) {name name' : List Char} (hname' : IsName name')
    (hdots : name' ≠ ['.', '.']) (hne : name ≠ name') :
    Tree.step above name ≠ Tree.step above name' := by
  have hstep' : Tree.step above name' = above ++ [String.ofList name'] := by
    rw [Tree.step, if_neg (not_or.mpr ⟨hname'.ne_nil, hname'.ne_dot⟩), if_neg hdots]
  rw [hstep', Tree.step]
  intro hstep
  split_ifs at hstep
  -- the directory itself and the one above have shorter places than anything in it
  · have hlength := congrArg List.length hstep
    rw [List.length_append, List.length_singleton] at hlength
    omega
  · have hlength := congrArg List.length hstep
    rw [List.length_dropLast, List.length_append, List.length_singleton] at hlength
    omega
  · have hlast := List.append_cancel_left hstep
    exact hne (String.ofList_injective (List.singleton_injective hlast))

/-- Paths that differ in the last name lead to two places. -/
theorem not_samePlace_of_names (t : Tree) {path other : String} {dirs : List (List Char)}
    {name name' : List Char} (hstart : t.start path.toList = t.start other.toList)
    (hnames : names path.toList = dirs ++ [name]) (hnames' : names other.toList = dirs ++ [name'])
    (hname' : IsName name') (hdots : name' ≠ ['.', '.']) (hne : name ≠ name') :
    ¬ t.SamePlace path other := by
  rintro ⟨place, hlocate, hlocate'⟩
  obtain ⟨-, -, hwalk⟩ := Tree.locate_eq_ok_iff.mp hlocate
  obtain ⟨-, -, hwalk'⟩ := Tree.locate_eq_ok_iff.mp hlocate'
  rw [hnames, hstart, Tree.walk_concat_eq_ok_iff] at hwalk
  rw [hnames', Tree.walk_concat_eq_ok_iff] at hwalk'
  obtain ⟨above, habove, -, rfl⟩ := hwalk
  obtain ⟨above', habove', -, hstep⟩ := hwalk'
  obtain rfl : above = above' := Except.ok.inj
    ((Tree.walk_eq_ok_iff_walk.mp habove).symm.trans habove')
  exact step_ne_step above hname' hdots hne hstep

/-- Two names beside each other lead to two places. The second is not the directory above. -/
theorem not_samePlace_sibling (t : Tree) {path : String} {name name' : List Char}
    (hname : IsName name) (hname' : IsName name') (hdots : name' ≠ ['.', '.'])
    (hne : name ≠ name') : ¬ t.SamePlace (sibling path name) (sibling path name') := by
  refine not_samePlace_of_names t ?_ (names_sibling hname) (names_sibling hname') hname' hdots hne
  rw [start_sibling t hname, start_sibling t hname']

/-! ### Suffixes -/

/-- A suffix with which every name becomes that of a file. -/
structure IsSuffix (suffix : String) : Prop where
  three_le_length : 3 ≤ suffix.toList.length
  no_slash : '/' ∉ suffix.toList

namespace IsSuffix

variable {suffix : String} {base : List Char}

theorem isName_append (h : IsSuffix suffix) (hbase : '/' ∉ base) :
    IsName (base ++ suffix.toList) := by
  have hlength := h.three_le_length
  refine ⟨?_, ?_, ?_⟩
  · intro hnil
    have := congrArg List.length hnil
    rw [List.length_append, List.length_nil] at this
    omega
  · intro hdot
    have := congrArg List.length hdot
    rw [List.length_append, List.length_singleton] at this
    omega
  · intro hslash
    exact (List.mem_append.mp hslash).elim hbase h.no_slash

theorem append_ne_dots (h : IsSuffix suffix) (base : List Char) :
    base ++ suffix.toList ≠ ['.', '.'] := by
  intro hdots
  have hlength := h.three_le_length
  have := congrArg List.length hdots
  rw [List.length_append, show ['.', '.'].length = 2 from rfl] at this
  omega

end IsSuffix

theorem stem_subset (name : List Char) : stem name ⊆ name := by
  unfold stem
  split
  · next before after h =>
    split_ifs
    · exact List.Subset.refl _
    · obtain ⟨rfl, -⟩ := cutLast_eq_some_iff.mp h
      exact List.subset_append_left _ _
  · exact List.Subset.refl _

theorem isName_stem_append {name : List Char} {suffix : String} (hname : IsName name)
    (hsuffix : IsSuffix suffix) : IsName (stem name ++ suffix.toList) :=
  hsuffix.isName_append fun h => hname.no_slash (stem_subset name h)

/-! ### Characters

A character other than slash and dot gets into a tidy path or a sibling from the path alone. -/

section

variable {c : Char} (hslash : c ≠ '/') (hdot : c ≠ '.')

include hslash

theorem mem_intercalate_iff {parts : List (List Char)} :
    c ∈ ['/'].intercalate parts ↔ ∃ name ∈ parts, c ∈ name := by
  induction parts with
  | nil => simp
  | cons name parts ih =>
    cases parts with
    | nil => simp
    | cons next parts =>
      rw [List.intercalate_cons_cons, List.mem_append, List.mem_append, ih]
      simp [hslash]

theorem not_mem_rootSlashes (s : List Char) : c ∉ rootSlashes s := by
  rcases rootSlashes_cases s with h | h | h <;> simp [h, hslash]

include hdot

theorem exists_mem_properNames_iff {s : List Char} :
    (∃ name ∈ properNames s, c ∈ name) ↔ c ∈ s := by
  have hs : ['/'].intercalate (names s) = s := by
    rw [names_eq_splitOn]
    exact List.intercalate_splitOn '/'
  have hmem : c ∈ s ↔ ∃ name ∈ names s, c ∈ name := by
    rw [← mem_intercalate_iff hslash, hs]
  rw [hmem]
  refine exists_congr fun name => and_congr_left fun hc => ?_
  have hproper : name ≠ [] ∧ name ≠ ['.'] := by
    refine ⟨?_, ?_⟩
    · rintro rfl
      cases hc
    · rintro rfl
      exact hdot (List.mem_singleton.mp hc)
  simp [properNames, hproper]

theorem mem_joined_iff {slashes : List Char} {parts : List (List Char)} (hslashes : c ∉ slashes) :
    c ∈ (joined slashes parts).toList ↔ ∃ name ∈ parts, c ∈ name := by
  rw [← mem_intercalate_iff hslash]
  unfold joined
  split
  · next hnil =>
    rw [(List.append_eq_nil_iff.mp hnil).2]
    simp [hdot]
  · simp [hslashes]

theorem mem_tidy_iff {path : String} : c ∈ (tidy path).toList ↔ c ∈ path.toList := by
  unfold tidy
  rw [mem_joined_iff hslash hdot (not_mem_rootSlashes hslash _),
    exists_mem_properNames_iff hslash hdot]

theorem mem_of_mem_withSuffix {path suffix target : String}
    (htarget : withSuffix? path suffix = some target) (hsuffix : c ∉ suffix.toList)
    (h : c ∈ target.toList) : c ∈ path.toList := by
  obtain ⟨name, hlast, rfl⟩ := withSuffix?_eq_some_iff.mp htarget
  unfold sibling at h
  rw [mem_joined_iff hslash hdot (not_mem_rootSlashes hslash _)] at h
  obtain ⟨part, hpart, hc⟩ := h
  rw [← exists_mem_properNames_iff hslash hdot]
  rcases List.mem_append.mp hpart with hpart | hpart
  · exact ⟨part, List.mem_of_mem_dropLast hpart, hc⟩
  · obtain rfl := List.mem_singleton.mp hpart
    refine ⟨name, List.mem_of_getLast? hlast, ?_⟩
    exact stem_subset name ((List.mem_append.mp hc).resolve_right hsuffix)

end

/-- If a path can be used in its tidy form, then so can the one with another suffix. -/
theorem complaint?_withSuffix {t : Tree} {path suffix target : String}
    (hsuffix : ∀ c ∈ suffix.toList, c ≠ '\x00' ∧ c.toNat < 128)
    (htarget : withSuffix? path suffix = some target) (h : t.complaint? (tidy path) = none) :
    t.complaint? target = none := by
  rw [Tree.complaint?_eq_none_iff] at h ⊢
  intro c hc
  by_cases hslash : c = '/'
  · exact Tree.isUsable_of_ascii (by rw [hslash]; decide) (by rw [hslash]; decide)
  by_cases hdot : c = '.'
  · exact Tree.isUsable_of_ascii (by rw [hdot]; decide) (by rw [hdot]; decide)
  by_cases hmem : c ∈ suffix.toList
  · exact Tree.isUsable_of_ascii (hsuffix c hmem).1 (hsuffix c hmem).2
  · have hpath := mem_of_mem_withSuffix hslash hdot htarget hmem hc
    exact h c ((mem_tidy_iff hslash hdot).mpr hpath)

/-! ### Roots -/

/-- The text up to a last name. -/
def IsFront (front : List Char) : Prop := front = [] ∨ ∃ before, front = before ++ ['/']

section

variable {front name name' : List Char}

theorem IsFront.exists_names_append (h : IsFront front) :
    ∃ dirs, ∀ name, '/' ∉ name → names (front ++ name) = dirs ++ [name] := by
  rcases h with rfl | ⟨before, rfl⟩
  · exact ⟨[], fun name hname => names_of_no_slash hname⟩
  · refine ⟨names before, fun name hname => ?_⟩
    rw [List.append_assoc, List.singleton_append, names_append_slash, names_of_no_slash hname]

theorem start_append_eq (t : Tree) (front : List Char) (hname : '/' ∉ name)
    (hname' : '/' ∉ name') : t.start (front ++ name) = t.start (front ++ name') := by
  rw [Tree.start_eq_ite, Tree.start_eq_ite]
  cases front with
  | nil =>
    have hhead {part : List Char} (hpart : '/' ∉ part) : part.head? ≠ some '/' :=
      fun h => hpart (List.mem_of_head? h)
    rw [List.nil_append, List.nil_append, if_neg (hhead hname), if_neg (hhead hname')]
  | cons c front => rfl

/-- Texts that differ in the last name lead to two places. -/
theorem IsFront.not_samePlace (hfront : IsFront front) (t : Tree) {path other : String}
    (hpath : path.toList = front ++ name) (hother : other.toList = front ++ name')
    (hname : '/' ∉ name) (hname' : IsName name') (hdots : name' ≠ ['.', '.'])
    (hne : name ≠ name') : ¬ t.SamePlace path other := by
  obtain ⟨dirs, hnames⟩ := hfront.exists_names_append
  have hstart := start_append_eq t front hname hname'.no_slash
  have hdirs := hnames name hname
  have hdirs' := hnames name' hname'.no_slash
  rw [← hpath, ← hother] at hstart
  rw [← hpath] at hdirs
  rw [← hother] at hdirs'
  exact not_samePlace_of_names t hstart hdirs hdirs' hname' hdots hne

end

theorem exists_eq_append_name (s : List Char) :
    ∃ front, IsFront front ∧ s = front ++ (cutParent s).2 ∧ '/' ∉ (cutParent s).2 := by
  unfold cutParent
  split
  · next h => exact ⟨[], .inl rfl, rfl, cutLast_eq_none_iff.mp h⟩
  · next before after h =>
    obtain ⟨hs, hafter⟩ := cutLast_eq_some_iff.mp h
    exact ⟨before ++ ['/'], .inr ⟨before, rfl⟩, by simpa using hs, hafter⟩

/-- What a name is to its base: the same, or longer by a suffix without further dots. -/
def IsBase (base name : List Char) : Prop :=
  name = base ∨ ∃ ext, '.' ∉ ext ∧ name = base ++ '.' :: ext

/-- The root of a path has the base of its last name for a last name. -/
theorem exists_toList_root (path : String) : ∃ front name base, IsFront front ∧ '/' ∉ name ∧
    IsBase base name ∧ path.toList = front ++ name ∧ (root path).toList = front ++ base := by
  obtain ⟨front, hfront, hpath, hname⟩ := exists_eq_append_name path.toList
  refine ⟨front, (cutParent path.toList).2, ?_⟩
  unfold root
  simp only
  split
  · next before after h =>
    obtain ⟨hcut, hafter⟩ := cutLast_eq_some_iff.mp h
    split_ifs
    · exact ⟨_, hfront, hname, .inl rfl, hpath, hpath⟩
    · have hlength := congrArg List.length hpath
      rw [List.length_append] at hlength
      have htake := (congrArg (List.take front.length) hpath).trans List.take_left
      rw [hlength, Nat.add_sub_cancel, htake]
      exact ⟨before, hfront, hname, .inr ⟨after, hafter, hcut⟩, hpath, String.toList_ofList⟩
  · exact ⟨_, hfront, hname, .inl rfl, hpath, hpath⟩

namespace IsBase

variable {base name : List Char} {suffix : String}

theorem no_slash (h : IsBase base name) (hname : '/' ∉ name) : '/' ∉ base := by
  rcases h with rfl | ⟨ext, -, rfl⟩
  · exact hname
  · exact fun hbase => hname (List.mem_append_left _ hbase)

theorem ne_append (h : IsBase base name) (hsuffix : IsSuffix suffix)
    (hdot : '.' ∈ suffix.toList.tail) : name ≠ base ++ suffix.toList := by
  intro hsame
  rcases h with rfl | ⟨ext, hext, rfl⟩
  · have hlength := hsuffix.three_le_length
    rw [List.self_eq_append_right.mp hsame, List.length_nil] at hlength
    omega
  -- the suffix would be the one that was cut off, and there the first dot was the last
  · rw [← List.append_cancel_left hsame] at hdot
    exact hext hdot

end IsBase

section

variable {suffix : String} (hsuffix : IsSuffix suffix) (hdot : '.' ∈ suffix.toList.tail)

include hsuffix hdot

/-- A suffix with a further dot never makes a path of its own root. -/
theorem root_append_ne (path : String) : root path ++ suffix ≠ path := by
  obtain ⟨front, name, base, -, -, hbase, hpath, hroot⟩ := exists_toList_root path
  intro hsame
  rw [← hsame, String.toList_append, hroot, List.append_assoc] at hpath
  exact hbase.ne_append hsuffix hdot (List.append_cancel_left hpath).symm

theorem not_samePlace_root (t : Tree) (path : String) :
    ¬ t.SamePlace (root path ++ suffix) path := by
  obtain ⟨front, name, base, hfront, hname, hbase, hpath, hroot⟩ := exists_toList_root path
  have hother : (root path ++ suffix).toList = front ++ (base ++ suffix.toList) := by
    rw [String.toList_append, hroot, List.append_assoc]
  intro hsame
  exact hfront.not_samePlace t hpath hother hname (hsuffix.isName_append (hbase.no_slash hname))
    (hsuffix.append_ne_dots base) (hbase.ne_append hsuffix hdot) hsame.symm

end

section

variable {path suffix suffix' target target' : String}

/-- Two suffixes make two files of one name. -/
theorem not_samePlace_withSuffix (t : Tree) (hsuffix : IsSuffix suffix)
    (hsuffix' : IsSuffix suffix') (htarget : withSuffix? path suffix = some target)
    (htarget' : withSuffix? path suffix' = some target') (hne : suffix ≠ suffix') :
    ¬ t.SamePlace target target' := by
  obtain ⟨name, hlast, rfl⟩ := withSuffix?_eq_some_iff.mp htarget
  obtain ⟨name', hlast', rfl⟩ := withSuffix?_eq_some_iff.mp htarget'
  obtain rfl : name = name' := Option.some.inj (hlast.symm.trans hlast')
  have hname := isName_of_getLast? hlast
  apply not_samePlace_sibling t (isName_stem_append hname hsuffix)
    (isName_stem_append hname hsuffix') (hsuffix'.append_ne_dots _)
  intro hsame
  exact hne (String.toList_injective (List.append_cancel_left hsame))

/-- A file whose suffix was replaced is the file itself only if its suffix was that one. -/
theorem not_samePlace_tidy (t : Tree) (hsuffix : IsSuffix suffix)
    (htarget : withSuffix? path suffix = some target) (hne : target ≠ tidy path) :
    ¬ t.SamePlace target (tidy path) := by
  obtain ⟨name, hlast, rfl⟩ := withSuffix?_eq_some_iff.mp htarget
  have hname := isName_of_getLast? hlast
  rw [tidy_eq_sibling hlast] at hne ⊢
  intro hsame
  refine not_samePlace_sibling t hname (isName_stem_append hname hsuffix)
    (hsuffix.append_ne_dots _) ?_ hsame.symm
  intro hnames
  exact hne (congrArg (sibling path) hnames.symm)

/-! ### Writing beside a path -/

/-- The second tree is the first after the contents were stored in the file beside a path that has
this suffix. -/
def WritesBeside (t : Tree) (path suffix : String) (contents : Bytes) (t' : Tree) : Prop :=
  ∃ target, withSuffix? path suffix = some target ∧ t.store target contents = (.ok (), t')

namespace WritesBeside

variable {t t' : Tree} {contents data : Bytes}

theorem complaint?_eq (h : WritesBeside t path suffix contents t') (other : String) :
    t'.complaint? other = t.complaint? other := by
  obtain ⟨target, -, hstore⟩ := h
  exact Tree.complaint?_of_write (Tree.store_eq_ok_iff.mp hstore).1 other

theorem read_target (h : WritesBeside t path suffix contents t') :
    ∃ target, withSuffix? path suffix = some target ∧ t'.read target = .ok contents := by
  obtain ⟨target, htarget, hstore⟩ := h
  obtain ⟨hwrite, -⟩ := Tree.store_eq_ok_iff.mp hstore
  exact ⟨target, htarget, Tree.read_of_write hwrite⟩

theorem read_tidy (h : WritesBeside t path suffix contents t')
    (hsame : withSuffix? path suffix = some (tidy path)) : t'.read (tidy path) = .ok contents := by
  obtain ⟨target, htarget, hstore⟩ := h
  obtain ⟨hwrite, -⟩ := Tree.store_eq_ok_iff.mp hstore
  obtain rfl : target = tidy path := Option.some.inj (htarget.symm.trans hsame)
  exact Tree.read_of_write hwrite

theorem read_tidy_iff (h : WritesBeside t path suffix contents t') (hsuffix : IsSuffix suffix)
    (hne : withSuffix? path suffix ≠ some (tidy path)) :
    t'.read (tidy path) = .ok data ↔ t.read (tidy path) = .ok data := by
  obtain ⟨target, htarget, hstore⟩ := h
  obtain ⟨hwrite, -⟩ := Tree.store_eq_ok_iff.mp hstore
  rw [htarget, ne_eq, Option.some.injEq] at hne
  exact Tree.read_write_of_ne hwrite (not_samePlace_tidy t hsuffix htarget hne)

theorem read_other_iff (h : WritesBeside t path suffix contents t') (hsuffix : IsSuffix suffix)
    (hsuffix' : IsSuffix suffix') (htarget' : withSuffix? path suffix' = some target')
    (hne : suffix ≠ suffix') : t'.read target' = .ok data ↔ t.read target' = .ok data := by
  obtain ⟨target, htarget, hstore⟩ := h
  obtain ⟨hwrite, -⟩ := Tree.store_eq_ok_iff.mp hstore
  exact Tree.read_write_of_ne hwrite
    (not_samePlace_withSuffix t hsuffix hsuffix' htarget htarget' hne)

end WritesBeside

end

end Path

end Rs256Cose.Files
