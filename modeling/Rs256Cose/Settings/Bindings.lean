import Rs256Cose.Text.Blank

/-!
# Binding files

A binding file gives values to variables, one `NAME=value` to a line, with `export` before the
name if one likes. A value may be quoted: between double quotes the usual escapes count, between
single quotes only those of the quote and the backslash. An unquoted value ends at a `#` after
white space. What does not read as a binding is skipped to the end of its line.
-/

namespace Rs256Cose.Settings

open Text

/-- A name and its value; the value may be missing altogether. -/
structure Binding where
  name : String
  value : Option String
  deriving DecidableEq, Repr

namespace Binding

/-- A piece that was read and the text after it, or the text at which reading stopped. -/
abbrev Piece (α : Type) := Except (List Char) (α × List Char)

/-! ### Names -/

def exportWord : List Char := "export".toList

/-- The text after `export` and white space, if it starts so. -/
def skipExport (s : List Char) : List Char :=
  let rest := s.drop exportWord.length
  if exportWord.isPrefixOf s ∧ (rest.takeWhile isInlineBlank) ≠ [] then rest.dropWhile isInlineBlank
  else s

def isNameChar (c : Char) : Bool := c != '=' && c != '#' && !isBlank c

/-- The name at the front of a line; a comment has none. -/
def readName (s : List Char) : Piece (Option String) :=
  match s with
  | '#' :: _ => .ok (none, s)
  | '\x27' :: rest =>
    match rest.takeWhile (· ≠ '\x27'), rest.dropWhile (· ≠ '\x27') with
    | name@(_ :: _), _ :: after => .ok (some (String.ofList name), after)
    | _, _ => .error s
  | _ =>
    match s.takeWhile isNameChar with
    | [] => .error s
    | name => .ok (some (String.ofList name), s.dropWhile isNameChar)

/-! ### Values -/

/-- The text up to the closing quote and the text after it. A quote after a backslash closes only
if no later one does. -/
def readQuoted (quote : Char) : List Char → Option (List Char × List Char)
  | [] => none
  | c :: rest =>
    if c = quote then some ([], rest)
    else if c = '\\' ∧ rest.head? = some quote then
      match readQuoted quote rest.tail with
      | some (value, after) => some (c :: quote :: value, after)
      | none => some ([c], rest.tail)
    else (readQuoted quote rest).map fun (value, after) => (c :: value, after)
termination_by s => s.length

/-- The characters that an escape may name, with what each stands for. -/
abbrev Escapes := List (Char × Char)

def singleQuoteEscapes : Escapes := [('\\', '\\'), ('\x27', '\x27')]

def doubleQuoteEscapes : Escapes :=
  singleQuoteEscapes ++ [('"', '"'), ('a', '\x07'), ('b', '\x08'), ('f', '\x0c'), ('n', '\n'),
    ('r', '\r'), ('t', '\t'), ('v', '\x0b')]

def unescape (escapes : Escapes) : List Char → List Char
  | '\\' :: c :: rest =>
    match escapes.lookup c with
    | some d => d :: unescape escapes rest
    | none => '\\' :: unescape escapes (c :: rest)
  | c :: rest => c :: unescape escapes rest
  | [] => []

/-- The text before a `#` that follows white space. -/
def dropComment : List Char → List Char
  | [] => []
  | c :: rest => if isBlank c ∧ rest.head? = some '#' then [] else c :: dropComment rest

def trimEnd (s : List Char) : List Char := (s.reverse.dropWhile isBlank).reverse

/-- The rest of the line and the text from its end on. -/
def cutLine (s : List Char) : List Char × List Char :=
  (s.takeWhile (!isLineEnd ·), s.dropWhile (!isLineEnd ·))

def readValue (s : List Char) : Piece String :=
  let quotedValue (quote : Char) (escapes : Escapes) (rest : List Char) : Piece String :=
    match readQuoted quote rest with
    | some (value, after) => .ok (String.ofList (unescape escapes value), after)
    | none => .error s
  match s with
  | '\x27' :: rest => quotedValue '\x27' singleQuoteEscapes rest
  | '"' :: rest => quotedValue '"' doubleQuoteEscapes rest
  | _ =>
    let (value, after) := cutLine s
    .ok (String.ofList (trimEnd (dropComment value)), after)

/-- The value after an equals sign, if there is one. -/
def readAssignment (s : List Char) : Piece (Option String) :=
  match s.dropWhile isInlineBlank with
  | '=' :: rest => (readValue (rest.dropWhile isInlineBlank)).map fun (v, after) => (some v, after)
  | rest => .ok (none, rest)

/-! ### Lines -/

/-- The text after a comment, if there is one. -/
def skipComment (s : List Char) : List Char :=
  match s.dropWhile isInlineBlank with
  | rest@('#' :: _) => (cutLine rest).2
  | _ => s

/-- The text after the end of a line. -/
def readLineEnd (s : List Char) : Piece Unit :=
  match s.dropWhile isInlineBlank with
  | [] => .ok ((), [])
  | '\r' :: '\n' :: rest => .ok ((), rest)
  | c :: rest => if isLineEnd c then .ok ((), rest) else .error s

/-- The binding of the line at the front, if it has a name. -/
def readLine (s : List Char) : Except (List Char) (Option Binding × List Char) := do
  let (name, rest) ← readName (skipExport s)
  let (value, rest) ← readAssignment rest
  let ((), rest) ← readLineEnd (skipComment rest)
  return (name.map fun name => ⟨name, value⟩, rest)

/-- The bindings of a text, in order. -/
def readAll (s : List Char) : List Binding :=
  match s.dropWhile isBlank with
  | [] => []
  | text =>
    let (binding, rest) := match readLine text with
      | .ok (binding, rest) => (binding, rest)
      | .error stop => (none, (cutLine stop).2.drop 1)
    if rest.length < s.length then binding.toList ++ readAll rest else binding.toList
termination_by s.length

end Binding

/-- The bindings of a file, in order. -/
def readBindings (text : String) : List Binding := Binding.readAll text.toList

end Rs256Cose.Settings
