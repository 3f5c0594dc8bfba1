import Rs256Cose.CommandLine.Word

/-!
# Reading the words of a command

A command takes options and one plain word, its input. `Reading.ofWords` goes through the words
once: it collects the options given and the input, and keeps the words for which it has no use.
After the word `--` every word is plain.
-/

namespace Rs256Cose.CommandLine

/-- The words of a command line sorted by their use. -/
structure Reading where
  input : Option String
  /-- The options given, in order, each with its value if it has one. -/
  given : List (Declaration × Option String)
  unused : List String
  deriving DecidableEq, Repr

/-- What ends a reading: a request for help, or a refusal. -/
inductive Cut where
  | help
  | refused (error : UsageError)
  deriving DecidableEq, Repr

namespace Reading

def empty : Reading := ⟨none, [], []⟩

/-- The value of the last of the options given under this name. -/
def value? (r : Reading) (name : String) : Option String :=
  (r.given.reverse.find? fun (d, _) => name ∈ d.names).bind Prod.snd

/-- The last name, of those listed, under which an option was given. -/
def last? (r : Reading) (names : List String) : Option String :=
  r.given.reverse.findSome? fun (d, _) => names.find? (· ∈ d.names)

def leave (r : Reading) (words : List String) : Reading := { r with unused := r.unused ++ words }

/-- The option given before that this one excludes. -/
def exclusion? (r : Reading) (d : Declaration) : Option Declaration :=
  d.excludes.findSome? fun name => (r.given.find? fun (d, _) => name ∈ d.names).map Prod.fst

/-- Takes an option with its value. -/
def give (r : Reading) (d : Declaration) (value : Option String) : Except Cut Reading := do
  match d.kind, value with
  | .choice values, some v =>
    if v ∉ values then throw (.refused (.unknownChoice d.title v values))
  | _, _ => pure ()
  match r.exclusion? d with
  | some other => throw (.refused (.excluded d.title other.title))
  | none => return { r with given := r.given ++ [(d, value)] }

/-- What follows from the letters after that of the help option: each would be an option of its
own, so help is given unless a value shows up. -/
def helpLetters (title : String) : List Char → Cut
  | '-' :: rest => .refused (.unexpectedValue title (String.ofList ('-' :: rest)))
  | 'h' :: '=' :: rest => .refused (.unexpectedValue title (String.ofList rest))
  | 'h' :: rest => helpLetters title rest
  | _ => .help

/-- What ends a reading at an option that takes no value: help, or a value attached to it. -/
def cutAt (d : Declaration) : Option Attached → Cut
  | none => .help
  | some (.assigned value) => .refused (.unexpectedValue d.title value)
  | some (.joined value) =>
    if d.kind = .help then helpLetters d.title value.toList
    else .refused (.unexpectedValue d.title value)

/-- Goes through the words before `--`; `after` are those after it, if it is there. The `--` itself
is no word only if the input stands next to it. -/
def walk (after : Option (List String)) (r : Reading) : List Word → Except Cut Reading
  | [] =>
    match after, r.input with
    | none, _ => .ok r
    | some (word :: rest), none => .ok ({ r with input := some word }.leave rest)
    | some rest, _ => .ok (r.leave ("--" :: rest))
  | .plain text :: words =>
    match r.input, words, after with
    | none, [], some rest => .ok ({ r with input := some text }.leave rest)
    | none, words, _ => walk after { r with input := some text } words
    | some _, words, _ => walk after (r.leave [text]) words
  | .unknown text :: words => walk after (r.leave [text]) words
  | .option _ d value :: words =>
    match d.kind, value, words with
    | .help, value, _ => .error (cutAt d value)
    | .switch, some value, _ => .error (cutAt d (some value))
    | .switch, none, words => do walk after (← r.give d none) words
    | _, some (.assigned value), words | _, some (.joined value), words => do
      walk after (← r.give d (some value)) words
    | _, none, .plain value :: words => do walk after (← r.give d (some value)) words
    | _, none, _ => .error (.refused (.missingValue d.title))

/-- The words after the first `--`, if there is one. -/
def afterDashes (words : List String) : Option (List String) :=
  match words.dropWhile (· ≠ "--") with
  | _ :: rest => some rest
  | [] => none

def ofWords (ds : List Declaration) (words : List String) : Except Cut Reading := do
  let before ← ((words.takeWhile (· ≠ "--")).mapM (Word.read ds)).mapError Cut.refused
  walk (afterDashes words) empty before

end Reading

end Rs256Cose.CommandLine
