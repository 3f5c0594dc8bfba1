import Rs256Cose.Commands.Options
import Rs256Cose.CommandLine.Reading
import Rs256Cose.Settings.Basic

/-!
# Invocations

`Invocation.read` turns the words of a command line into a command with its options, with defaults
from the settings. A fault of the command's own words is found before words without use, and
those before an unknown format in the settings.
-/

namespace Rs256Cose.CommandLine

open Commands

inductive Invocation where
  | sign (options : SignOptions)
  | verify (options : VerifyOptions)
  | inspect (options : InspectOptions)
  deriving DecidableEq, Repr

namespace Invocation

def program : String := "cosesign"

/-! ### Options of each command -/

def helpOption : Declaration := ⟨.help, ["-h", "--help"], []⟩

def signDeclarations : List Declaration :=
  [helpOption,
    ⟨.choice Settings.outputFormats, ["--output-format"], []⟩,
    ⟨.text, ["--key"], []⟩,
    ⟨.switch, ["--verify"], []⟩,
    ⟨.switch, ["--embed-pubkey"], ["--no-embed-pubkey"]⟩,
    ⟨.switch, ["--no-embed-pubkey"], ["--embed-pubkey"]⟩]

def verifyDeclarations : List Declaration := [helpOption, ⟨.text, ["--pub"], []⟩]

def inspectDeclarations : List Declaration := [helpOption]

inductive CommandName where
  | sign | verify | inspect
  deriving DecidableEq, Repr

namespace CommandName

def word : CommandName → String
  | sign => "sign"
  | verify => "verify"
  | inspect => "inspect"

def all : List CommandName := [sign, verify, inspect]

def ofWord? (s : String) : Option CommandName := all.find? fun name => name.word = s

def declarations : CommandName → List Declaration
  | sign => signDeclarations
  | verify => verifyDeclarations
  | inspect => inspectDeclarations

def program (name : CommandName) : String := s!"{Invocation.program} {name.word}"

end CommandName

/-- The line that shows how a program is used. -/
def usage (program : String) : String :=
  let options := "[-h]" :: match CommandName.all.find? fun name => name.program = program with
    | some .sign => ["[--output-format {raw,cosesign1}]", "[--key KEY]", "[--verify]",
      "[--embed-pubkey | --no-embed-pubkey]", "input"]
    | some .verify => ["[--pub PUB]", "input"]
    | some .inspect => ["input"]
    | none => ["{sign,verify,inspect}", "..."]
  s!"usage: {program} " ++ " ".intercalate options

def Cut.stop (program : String) : Cut → Stop
  | .help => .help program
  | .refused error => .refused program error

/-! ### The command -/

/-- The command's name with the words after it, and the words before it that have no use. -/
def readName (unused : List String) : List String →
    Except Stop (CommandName × List String × List String)
  | [] => .error (.refused program (.missingArgument "cmd"))
  | word :: words =>
    let unknownName := Except.error
      (.refused program (.unknownChoice "cmd" word (CommandName.all.map CommandName.word)))
    if word = "--" then if words = [] then readName unused [] else unknownName
    else match Word.read [helpOption] word with
    | .error error => .error (.refused program error)
    | .ok (.plain _) =>
      match CommandName.ofWord? word with
      | some name => .ok (name, words, unused)
      | none => unknownName
    | .ok (.unknown _) => readName (unused ++ [word]) words
    | .ok (.option _ d value) => .error (Cut.stop program (Reading.cutAt d value))

/-- The options of a command. Only the output format may still be unknown. -/
def ofReading (settings : Settings) (name : CommandName) (input : String) (r : Reading) :
    Except Stop Invocation :=
  match name with
  | .sign =>
    let embed := ["--embed-pubkey", "--no-embed-pubkey"]
    let format := (r.value? "--output-format").getD settings.outputFormat
    match OutputFormat.ofName? format with
    | none => .error (.refused name.program (.unknownDefaultFormat format Settings.outputFormats))
    | some format =>
      .ok (.sign {
        input := input
        keyPath := (r.value? "--key").getD settings.keyPath
        format := format
        embedKey := match r.last? embed with
          | some word => word = "--embed-pubkey"
          | none => settings.embedKey
        verify := (r.last? ["--verify"]).isSome })
  | .verify => .ok (.verify ⟨input, r.value? "--pub"⟩)
  | .inspect => .ok (.inspect ⟨input⟩)

def read (settings : Settings) (words : List String) : Except Stop Invocation := do
  let (name, words, before) ← readName [] words
  let r ← (Reading.ofWords name.declarations words).mapError (Cut.stop name.program)
  let some input := r.input | throw (.refused name.program (.missingArgument "input"))
  let unused := before ++ r.unused
  if unused ≠ [] then throw (.refused program (.unrecognized unused))
  ofReading settings name input r

end Invocation

end Rs256Cose.CommandLine
