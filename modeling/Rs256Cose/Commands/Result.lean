import Rs256Cose.Keys.Storage
import Rs256Cose.Log
import Rs256Cose.Message.Verification

/-!
# How a command ends

A command may fail for the reasons in `Failure`. Most of them are foreseen: they are logged and
the command ends in failure. The others abort it.
-/

namespace Rs256Cose.Commands

open Files Keys Log

inductive Failure where
  | key (error : KeyError)
  | file (error : FileError)
  /-- The tidy path has no name, so no file stands beside it. -/
  | unnamed (path : String)
  | unsignable (error : EncodeError)
  | undecodable (error : DecodeError)
  | rejected (rejection : Rejection)
  /-- A key that the library does not support. -/
  | unsupported (description : String)
  | digestLength
  deriving DecidableEq, Repr

namespace Failure

def message : Failure → String
  | key error => error.message
  | file error => error.message
  | unnamed path => s!"PosixPath({Text.quoted path}) has an empty name"
  | unsignable error => error.message
  | undecodable error => error.message
  | rejected rejection => rejection.message
  | unsupported description => description
  | digestLength => VerifyError.digestLength.message

/-- Whether a failure is foreseen. -/
def isForeseen : Failure → Bool
  | key _ | unsignable _ | rejected _ => true
  | file (.unusable _) => false
  | file _ => true
  | undecodable error => error ≠ .beforeStart
  | unnamed _ | unsupported _ | digestLength => false

def ofKeyFileError : KeyFileError → Failure
  | .refused error => key error
  | .unsupported description => unsupported description

def ofLoadError : LoadError → Failure
  | .key error => ofKeyFileError error
  | .file error => file error

def ofVerifyError : VerifyError → Failure
  | .undecodable error => undecodable error
  | .rejected rejection => rejected rejection
  | .unsignable error => unsignable error
  | .unsupported description => unsupported description
  | .digestLength => digestLength

end Failure

inductive Result where
  | success
  | failure
  | aborted (failure : Failure)
  deriving DecidableEq, Repr

variable {m : Type → Type} [Monad m] [Host m]

/-- Runs the command of the given name; a foreseen failure is logged. -/
def attempt (l : Logger) (name : String) (command : ExceptT Failure m Result) : m Result := do
  match ← command.run with
  | .ok result => return result
  | .error failure =>
    if failure.isForeseen then
      log l .error s!"{name} failed: {failure.message}"
      return .failure
    else return .aborted failure

/-! ### Steps of commands -/

/-- The contents of the file at a path, in its tidy form. -/
def readFile (path : String) : ExceptT Failure m Bytes := do
  return ← (← Host.read (Path.tidy path)).mapError Failure.file

/-- Writes the file whose path differs from the given one in the suffix, and logs it. -/
def writeBeside (l : Logger) (path suffix what : String) (contents : Bytes) :
    ExceptT Failure m Unit := do
  let some target := Path.withSuffix? path suffix | throw (.unnamed (Path.tidy path))
  (← Host.write target contents).mapError Failure.file
  log l .info s!"{what} written to: {target}"

/-- The text of a JSON object whose values are given as text. -/
def objectText (members : List (String × String)) : String :=
  "\x7b" ++ ", ".intercalate (members.map fun (name, value) => s!"\"{name}\": {value}") ++ "\x7d"

/-- The text of a JSON string of hexadecimal digits. -/
def hexText (bytes : Bytes) : String := "\"" ++ bytes.hex ++ "\""

end Rs256Cose.Commands
