import Rs256Cose.Files.Error
import Rs256Cose.Files.Path

/-!
# File trees

A tree gives to places, lists of names from the root, a file or a directory, and has a current
directory from which relative paths start. There are no links, symbolic or hard: every place has its
own contents, and what is proved of trees is proved of file systems without links only.

`walk` follows the names of a path one by one, each from a directory, so `a/..` exists only if `a`
does. Reading, writing and making a directory are as in POSIX: a path that ends in a slash names a
directory, and no write makes one. A path is usable if its characters are those of file names: NUL
is none, and an `Encoding` says which others are not. Lone halves of surrogate pairs, which are no
characters here, count as such. Whatever else can go wrong with a write is told by the `medium`: the
file is not opened, or it is opened, which empties it, and then not filled.
-/

namespace Rs256Cose.Files

abbrev Place := List String

inductive Node where
  | file (contents : Bytes)
  | directory
  deriving DecidableEq, Repr

/-- How names are written: with which characters, at least those of ASCII, and what is said of a
path with another one. -/
structure Encoding where
  encodes : Char → Bool
  complaint : String → String
  encodes_ascii : ∀ c : Char, c.toNat < 128 → encodes c = true

/-- The encoding that can write every character. -/
def Encoding.full : Encoding := ⟨fun _ => true, fun _ => "", fun _ _ => rfl⟩

/-- What goes wrong with a write, as the system describes it: the file is not opened, or only that
many bytes get into it. -/
inductive Fault where
  | refused (description : String)
  | broken (kept : Nat) (description : String)
  deriving DecidableEq, Repr

/-- What gets into a file that is opened. -/
def Fault.stored (contents : Bytes) : Option Fault → Bytes
  | some (.broken kept _) => contents.take kept
  | _ => contents

structure Tree where
  nodes : List (Place × Node)
  current : Place
  encoding : Encoding
  /-- What goes wrong with a write that the nodes allow, by the nodes, the path and the contents. -/
  medium : List (Place × Node) → String → Bytes → Option Fault

namespace Tree

/-- An empty tree with one directory to work in, and on which nothing goes wrong by itself. -/
def workingIn (place : Place) : Tree :=
  ⟨[(place, .directory)], place, .full, fun _ _ _ => none⟩

def node? (t : Tree) (place : Place) : Option Node :=
  if place = [] then some .directory else t.nodes.lookup place

def put (t : Tree) (place : Place) (node : Node) : Tree :=
  { t with nodes := (place, node) :: t.nodes.filter (·.1 ≠ place) }

def delete (t : Tree) (place : Place) : Tree :=
  { t with nodes := t.nodes.filter (·.1 ≠ place) }

theorem node?_put (t : Tree) (place : Place) (node : Node) (h : place ≠ []) :
    (t.put place node).node? place = some node := by
  simp [put, node?, h]

private theorem lookup_filter_ne (nodes : List (Place × Node)) {place other : Place}
    (h : other ≠ place) : (nodes.filter (·.1 ≠ place)).lookup other = nodes.lookup other := by
  induction nodes with
  | nil => rfl
  | cons entry rest ih =>
    obtain ⟨place', node⟩ := entry
    by_cases hp : place' = place
    · subst hp
      have hb : (other == place') = false := by simpa using h
      rw [List.filter_cons_of_neg (by simp), ih, List.lookup_cons, hb]
    · rw [List.filter_cons_of_pos (by simpa using hp), List.lookup_cons, List.lookup_cons, ih]

theorem node?_put_of_ne (t : Tree) {place other : Place} (node : Node) (h : other ≠ place) :
    (t.put place node).node? other = t.node? other := by
  have hb : (other == place) = false := by simpa using h
  simp only [put, node?, List.lookup_cons, hb, lookup_filter_ne t.nodes h]

/-! ### Following paths -/

/-- Whether a character can stand in the path of a file. -/
def isUsable (t : Tree) (c : Char) : Bool := c != '\x00' && t.encoding.encodes c

/-- What is said of a path that cannot be used, if it is one. The characters are written before any
of them is looked at. -/
def complaint? (t : Tree) (path : String) : Option String :=
  if path.toList.all t.isUsable then none
  else if path.toList.all t.encoding.encodes then some "embedded null byte"
  else some (t.encoding.complaint path)

/-- The place that a name leads to from a directory. -/
def step (place : Place) (name : List Char) : Place :=
  if name = [] ∨ name = ['.'] then place
  else if name = ['.', '.'] then place.dropLast
  else place ++ [String.ofList name]

/-- The place that names lead to, each taken from a directory. The last place need not exist. -/
def walk (t : Tree) (path : String) : Place → List (List Char) → Except FileError Place
  | place, [] => .ok place
  | place, name :: rest =>
    match t.node? place with
    | none => .error (.notFound path)
    | some (.file _) => .error (.notDirectory path)
    | some .directory => t.walk path (step place name) rest

/-- Where the names of a path start. -/
def start (t : Tree) (path : List Char) : Place :=
  match path with
  | '/' :: _ => []
  | _ => t.current

/-- The place that a path names for an operation on something that exists. -/
def locate (t : Tree) (path : String) : Except FileError Place :=
  let s := path.toList
  match t.complaint? path with
  | some complaint => .error (.unusable complaint)
  | none => if s = [] then .error (.notFound path) else t.walk path (t.start s) (Path.names s)

/-- The place that a path names for something to be made: slashes at its end do not matter. -/
def locateNew (t : Tree) (path : String) : Except FileError Place :=
  let s := path.toList
  match t.complaint? path with
  | some complaint => .error (.unusable complaint)
  | none =>
    if s = [] then .error (.notFound path)
    else t.walk path (t.start s) (Path.names (s.reverse.dropWhile (· = '/')).reverse)

def exists? (t : Tree) (path : String) : Bool :=
  match t.locate path with
  | .ok place => (t.node? place).isSome
  | .error _ => false

def isDirectory (t : Tree) (path : String) : Bool :=
  match t.locate path with
  | .ok place => t.node? place = some .directory
  | .error _ => false

/-! ### Operations -/

def read (t : Tree) (path : String) : Except FileError Bytes :=
  (t.locate path).bind fun place =>
    match t.node? place with
    | none => .error (.notFound path)
    | some .directory => .error (.isDirectory path)
    | some (.file contents) => .ok contents

/-- The tree after a file was made or given new contents, if the nodes allow it. -/
def write (t : Tree) (path : String) (contents : Bytes) : Except FileError Tree :=
  (t.locateNew path).bind fun place =>
    if path.toList.getLast? = some '/' ∨ t.node? place = some .directory then
      .error (.isDirectory path)
    else .ok (t.put place (.file contents))

/-- What goes wrong with a write that the nodes allow. -/
def fault (t : Tree) (path : String) (contents : Bytes) : Option Fault :=
  t.medium t.nodes path contents

/-- The answer to a write, and the tree after it. Only a write that broke off changes the tree
without success. -/
def store (t : Tree) (path : String) (contents : Bytes) : Except FileError Unit × Tree :=
  let fault := t.fault path contents
  match t.write path (Fault.stored contents fault), fault with
  | .error e, _ => (.error e, t)
  | .ok t', none => (.ok (), t')
  | .ok _, some (.refused description) => (.error (.other description), t)
  | .ok t', some (.broken _ description) => (.error (.interrupted description), t')

/-- The tree with one directory more. -/
def makeDirectory (t : Tree) (path : String) : Except FileError Tree :=
  (t.locateNew path).bind fun place =>
    match t.node? place with
    | some _ => .error (.exists path)
    | none => .ok (t.put place .directory)

end Tree

end Rs256Cose.Files
