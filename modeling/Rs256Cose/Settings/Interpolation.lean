import Rs256Cose.Settings.Bindings

/-!
# References in binding files

A value may refer to variables: `${NAME}` stands for the value of `NAME`, and `${NAME:-TEXT}` for
`TEXT` if `NAME` has none. The environment counts before the bindings above. A variable that is
bound there to no value stands for nothing, whatever text is given.
-/

namespace Rs256Cose

/-- Variables with their values. -/
abbrev Environment := List (String × String)

namespace Settings

/-- The last binding of a name. -/
def binding? (bindings : List Binding) (name : String) : Option Binding :=
  bindings.reverse.find? (·.name = name)

/-- A piece of a value. -/
inductive Atom where
  | text (c : Char)
  | reference (name fallback : String)
  deriving DecidableEq, Repr

namespace Atom

/-- The reference whose opening brace was read, and the text after it. -/
def readReference (s : List Char) : Option (Atom × List Char) :=
  let isNameChar (c : Char) : Bool := c != '\x7d' && c != ':'
  let name := String.ofList (s.takeWhile isNameChar)
  match s.dropWhile isNameChar with
  | '\x7d' :: rest => some (.reference name "", rest)
  | ':' :: '-' :: rest =>
    match rest.dropWhile (· != '\x7d') with
    | _ :: after => some (.reference name (String.ofList (rest.takeWhile (· != '\x7d'))), after)
    | [] => none
  | _ => none

/-- The pieces of a value of at most the given length. -/
def readAll : Nat → List Char → List Atom
  | 0, _ | _, [] => []
  | fuel + 1, c :: rest =>
    match if c = '$' ∧ rest.head? = some '\x7b' then readReference rest.tail else none with
    | some (atom, after) => atom :: readAll fuel after
    | none => .text c :: readAll fuel rest

def value (environment : Environment) (above : List Binding) : Atom → List Char
  | text c => [c]
  | reference name fallback =>
    match environment.lookup name, binding? above name with
    | some value, _ => value.toList
    | none, some binding => (binding.value.getD "").toList
    | none, none => fallback.toList

end Atom

namespace Binding

/-- The pieces of a binding's value. -/
def atoms (b : Binding) : List Atom :=
  match b.value with
  | some value => Atom.readAll value.length value.toList
  | none => []

/-- The binding with the values of the variables that it refers to. -/
def resolve (environment : Environment) (above : List Binding) (b : Binding) : Binding :=
  { b with value := b.value.map fun _ =>
      String.ofList (b.atoms.flatMap (Atom.value environment above)) }

end Binding

/-- The bindings, each resolved with those above it. -/
def resolveBindings (environment : Environment) (bindings : List Binding) : List Binding :=
  bindings.foldl (fun above b => above ++ [b.resolve environment above]) []

/-- The variables that bindings refer to. -/
def referencedNames (bindings : List Binding) : List String :=
  (bindings.flatMap Binding.atoms).filterMap fun
    | .reference name _ => some name
    | .text _ => none

end Settings

end Rs256Cose
