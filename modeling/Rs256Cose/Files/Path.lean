import Rs256Cose.Bytes

/-!
# Paths

A path is a text of names between slashes. `tidy` gives the form in which paths are printed: no
empty names and no `.`, but `..` kept, as it may lead through a link. `withSuffix?` names the file
beside another that differs in the suffix alone. `parent` and `root` cut the text itself, at its
last slash and before the suffix of its last name.
-/

namespace Rs256Cose.Files.Path

/-- The names between the slashes of a path, some of which may be empty. -/
def names : List Char → List (List Char)
  | [] => [[]]
  | c :: rest =>
    if c = '/' then [] :: names rest
    else match names rest with
    | name :: more => (c :: name) :: more
    | [] => [[c]]

/-- The characters before and after the last occurrence of `c`. -/
def cutLast (c : Char) (s : List Char) : Option (List Char × List Char) :=
  let after := (s.reverse.takeWhile (· ≠ c)).reverse
  if after.length = s.length then none else some (s.take (s.length - after.length - 1), after)

theorem length_cutLast {c : Char} {s before after : List Char}
    (h : cutLast c s = some (before, after)) : before.length + after.length < s.length := by
  have hle := (List.takeWhile_sublist (l := s.reverse) (· ≠ c)).length_le
  simp only [cutLast] at h
  split at h
  · cases h
  · next hne =>
    obtain ⟨rfl, rfl⟩ := Prod.mk.inj (Option.some.inj h)
    simp only [List.length_reverse, List.length_take] at *
    omega

/-! ### The printed form -/

/-- The slashes that an absolute path starts with: two are kept, any other number becomes one. -/
def rootSlashes (s : List Char) : List Char :=
  match s with
  | '/' :: '/' :: '/' :: _ => ['/']
  | '/' :: '/' :: _ => ['/', '/']
  | '/' :: _ => ['/']
  | _ => []

/-- The names that count: neither empty nor the current directory. -/
def properNames (s : List Char) : List (List Char) :=
  (names s).filter fun name => name ≠ [] ∧ name ≠ ['.']

def joined (slashes : List Char) (parts : List (List Char)) : String :=
  match slashes ++ ['/'].intercalate parts with
  | [] => "."
  | s => String.ofList s

def tidy (path : String) : String := joined (rootSlashes path.toList) (properNames path.toList)

/-! ### Suffixes -/

/-- A name without its suffix, which starts at the last dot unless that is the first or the last
character. -/
def stem (name : List Char) : List Char :=
  match cutLast '.' name with
  | some (before, after) => if before = [] ∨ after = [] then name else before
  | none => name

/-- The tidy path with the suffix of its last name replaced. A path without names has none. -/
def withSuffix? (path suffix : String) : Option String :=
  let parts := properNames path.toList
  match parts.getLast? with
  | none => none
  | some name =>
    let sibling := parts.dropLast ++ [stem name ++ suffix.toList]
    some (joined (rootSlashes path.toList) sibling)

/-! ### Cuts of the text -/

/-- The text up to the last slash, less the slashes at its end unless it has no other character,
and the text after that slash. -/
def cutParent (s : List Char) : List Char × List Char :=
  match cutLast '/' s with
  | none => ([], s)
  | some (before, after) =>
    let trimmed := (before.reverse.dropWhile (· = '/')).reverse
    (if trimmed = [] then before ++ ['/'] else trimmed, after)

theorem length_cutParent (s : List Char) :
    (cutParent s).1.length + (cutParent s).2.length ≤ s.length := by
  unfold cutParent
  split
  · simp
  · next before after h =>
    have hlt := length_cutLast h
    have hle := (List.dropWhile_sublist (l := before.reverse) (· = '/')).length_le
    simp only [List.length_reverse] at hle
    dsimp only
    split
    · simp only [List.length_append, List.length_singleton]; omega
    · simp only [List.length_reverse]; omega

def parent (path : String) : String := String.ofList (cutParent path.toList).1

/-- The text less the suffix of its last name. Dots at the start of the name open no suffix. -/
def root (path : String) : String :=
  let s := path.toList
  let name := (cutParent s).2
  match cutLast '.' name with
  | some (before, _) =>
    if before.all (· = '.') then path
    else String.ofList (s.take (s.length - name.length) ++ before)
  | none => path

/-- The path without slashes at its end, if only such follow its last slash. -/
def untrailed (s : List Char) : List Char := if (cutParent s).2 = [] then (cutParent s).1 else s

/-- A path and the directories above it that its text names, innermost first, each with the last
name of its own. -/
def lineage (s : List Char) : List (String × String) :=
  match _hc : cutParent (untrailed s) with
  | (head, name) =>
    if _h : head ≠ [] ∧ name ≠ [] then (String.ofList s, String.ofList name) :: lineage head
    else [(String.ofList s, String.ofList name)]
termination_by s.length
decreasing_by
  have h1 := length_cutParent (untrailed s)
  have h2 : (untrailed s).length ≤ s.length := by
    have := length_cutParent s
    unfold untrailed
    split <;> omega
  have h3 : 0 < name.length := List.length_pos_iff.mpr _h.2
  rw [_hc] at h1
  simp only at h1
  omega

end Rs256Cose.Files.Path
