import Rs256Cose.CommandLine.Invocation
import Rs256Cose.Commands.Inspect
import Rs256Cose.Commands.Sign

/-!
# The program

One run of the program: settings, logger, command line, command. `Ending.status` is the exit status
that a run leaves.
-/

namespace Rs256Cose.Program

open Commands CommandLine Log

/-- What a run is given. -/
structure Start where
  environment : Environment
  /-- The text of the binding file. -/
  bindings : String
  words : List String
  deriving Repr

inductive Ending where
  | finished (result : Result)
  | stopped (stop : Stop)
  /-- The level in the settings is none, so there is no logger. -/
  | unlogged (error : UnknownLevel)
  deriving DecidableEq, Repr

namespace Ending

def status : Ending → Nat
  | finished .success | stopped (.help _) => 0
  | finished .failure | finished (.aborted _) | unlogged _ => 1
  | stopped (.refused ..) => 2

end Ending

variable [Keys.KeyLibrary] {m : Type → Type} [Monad m] [Host m]

def runCommand (l : Logger) : Invocation → m Result
  | .sign options => sign l options
  | .verify options => verifyFile l options
  | .inspect options => inspectFile l options

def run (start : Start) : m Ending := do
  let settings := Settings.load start.environment start.bindings
  match Logger.fresh.setUp settings.logLevel with
  | (.error error, _) => return .unlogged error
  | (.ok (), logger) =>
    match Invocation.read settings start.words with
    | .error stop => return .stopped stop
    | .ok invocation => return .finished (← runCommand logger invocation)

end Rs256Cose.Program
