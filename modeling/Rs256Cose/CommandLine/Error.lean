import Rs256Cose.Text.Quoted

/-!
# Why a command line is refused

A refusal names the program, or the command of it, whose usage was broken, and says how.
-/

namespace Rs256Cose.CommandLine

inductive UsageError where
  /-- A shortened option that several options could stand for. -/
  | ambiguous (word : String) (candidates : List String)
  /-- A value attached to an option that takes none. -/
  | unexpectedValue (option value : String)
  | missingValue (option : String)
  | unknownChoice (argument value : String) (choices : List String)
  /-- An option given together with one that it excludes. -/
  | excluded (option other : String)
  | missingArgument (argument : String)
  | unrecognized (words : List String)
  /-- No option chose the output format, and the one in the settings is unknown. -/
  | unknownDefaultFormat (value : String) (formats : List String)
  deriving DecidableEq, Repr

def UsageError.message : UsageError → String
  | ambiguous word candidates =>
    s!"ambiguous option: {word} could match " ++ ", ".intercalate candidates
  | unexpectedValue option value =>
    s!"argument {option}: ignored explicit argument {Text.quoted value}"
  | missingValue option => s!"argument {option}: expected one argument"
  | unknownChoice argument value choices =>
    s!"argument {argument}: invalid choice: {Text.quoted value} (choose from " ++
      ", ".intercalate (choices.map Text.quoted) ++ ")"
  | excluded option other => s!"argument {option}: not allowed with argument {other}"
  | missingArgument argument => s!"the following arguments are required: {argument}"
  | unrecognized words => "unrecognized arguments: " ++ " ".intercalate words
  | unknownDefaultFormat value formats =>
    s!"invalid COSESIGN_OUTPUT_FORMAT {Text.quoted value} (choose from " ++
      ", ".intercalate formats ++ ")"

/-- What ends the reading of a command line early: a request for help, or a refusal. -/
inductive Stop where
  | help (program : String)
  | refused (program : String) (error : UsageError)
  deriving DecidableEq, Repr

/-- The line that reports a refusal. -/
def refusalLine (program : String) (error : UsageError) : String :=
  s!"{program}: error: {error.message}"

end Rs256Cose.CommandLine
