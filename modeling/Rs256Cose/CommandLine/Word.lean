import Rs256Cose.CommandLine.Error
import Rs256Cose.Text.Digit

/-!
# Words of a command line

A `Declaration` describes an option that a command has. `Word.read` decides what one word of a
command line is under the declarations: an option, perhaps with a value attached, an option that
the command does not have, or a plain word. A long option may be shortened as long as only one
begins so.
-/

namespace Rs256Cose.CommandLine

inductive OptionKind where
  | help
  | switch
  | text
  /-- One of some texts. -/
  | choice (values : List String)
  deriving DecidableEq, Repr

structure Declaration where
  kind : OptionKind
  names : List String
  /-- The names of the options that must not be given as well. -/
  excludes : List String
  deriving DecidableEq, Repr

/-- The name under which an option is spoken of. -/
def Declaration.title (d : Declaration) : String := "/".intercalate d.names

/-- A value that stands in the same word as its option. -/
inductive Attached where
  /-- After an equals sign. -/
  | assigned (value : String)
  /-- Right after the letter of the option. -/
  | joined (value : String)
  deriving DecidableEq, Repr

inductive Word where
  | plain (text : String)
  | option (text : String) (declaration : Declaration) (value : Option Attached)
  | unknown (text : String)
  deriving DecidableEq, Repr

namespace Word

def text : Word → String
  | plain text | option text _ _ | unknown text => text

/-- Whether a word is a minus and a number, in digits of any script, with or without a fraction.
A line feed may follow. -/
def isNegativeNumber (s : List Char) : Bool :=
  match s with
  | '-' :: number =>
    let digits := if number.getLast? = some '\n' then number.dropLast else number
    let isNumber (ds : List Char) : Bool := !ds.isEmpty && ds.all Text.isDigit
    isNumber digits || match digits.dropWhile Text.isDigit with
      | '.' :: fraction => isNumber fraction
      | _ => false
  | _ => false

/-- The text before the first equals sign and the text after it, if there is one. -/
def cutAssignment (s : List Char) : List Char × Option (List Char) :=
  match s.dropWhile (· ≠ '=') with
  | _ :: value => (s.takeWhile (· ≠ '='), some value)
  | [] => (s, none)

/-- The names of all options, in order. -/
def declaredNames (ds : List Declaration) : List (Declaration × String) :=
  ds.flatMap fun d => d.names.map fun name => (d, name)

def named? (ds : List Declaration) (name : String) : Option Declaration :=
  ds.find? fun d => name ∈ d.names

/-- The options that a word may stand for by the front of their names, with the value attached. -/
def candidates (ds : List Declaration) (s : List Char) :
    List (Declaration × String × Option Attached) :=
  match s with
  | '-' :: '-' :: _ =>
    let (front, value) := cutAssignment s
    (declaredNames ds).filterMap fun (d, name) =>
      if front.isPrefixOf name.toList then
        some (d, name, value.map fun v => .assigned (String.ofList v))
      else none
  | _ =>
    (declaredNames ds).filterMap fun (d, name) =>
      if name.toList = s.take 2 then some (d, name, some (.joined (String.ofList (s.drop 2))))
      else if s.isPrefixOf name.toList then some (d, name, none)
      else none

/-- The option whose whole name stands before an equals sign. -/
def assignment? (ds : List Declaration) (s : List Char) : Option (Declaration × Attached) :=
  match cutAssignment s with
  | (name, some value) =>
    (named? ds (String.ofList name)).map fun d => (d, .assigned (String.ofList value))
  | _ => none

/-- What a word is that starts with a dash and is no option by its whole name. -/
def readFront (ds : List Declaration) (word : String) : Except UsageError Word :=
  let s := word.toList
  match candidates ds s with
  | [(d, _, value)] => .ok (option word d value)
  | [] => .ok (if isNegativeNumber s ∨ ' ' ∈ s then plain word else unknown word)
  | several => .error (.ambiguous word (several.map fun (_, name, _) => name))

/-- What a word is. -/
def read (ds : List Declaration) (word : String) : Except UsageError Word :=
  let s := word.toList
  if s.head? ≠ some '-' then .ok (plain word)
  else match named? ds word with
  | some d => .ok (option word d none)
  | none =>
    if s.length = 1 then .ok (plain word)
    else match assignment? ds s with
    | some (d, value) => .ok (option word d (some value))
    | none => readFront ds word

end Word

end Rs256Cose.CommandLine
