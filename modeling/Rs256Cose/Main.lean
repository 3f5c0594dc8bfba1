import Rs256Cose.Keys.Reference
import Rs256Cose.Program
import Std.Time

/-!
# Command line

The program on a real machine: files, standard output, clock and environment.
-/

namespace Rs256Cose.Main

open Files

/-- The number by which the system says that something is no directory. Some of its operations
report their numbers negated. -/
def isNotDirectory (code : UInt32) : Bool := code = 20 || 0 - code = 20

/-- The refusal that an error of the system stands for. -/
def refusal (path : String) : IO.Error → FileError
  | .noFileOrDirectory .. => .notFound path
  | .alreadyExists .. => .exists path
  | .inappropriateType _ code _ =>
    if isNotDirectory code then .notDirectory path else .isDirectory path
  | error => .other (toString error)

/-- Runs a file operation on a path that the system can be given. -/
def onPath {α : Type} (path : String) (operation : IO α) : IO (Except FileError α) := do
  if '\x00' ∈ path.toList then return .error (.unusable "embedded null byte")
  try return .ok (← operation)
  catch error => return .error (refusal path error)

/-- The local time with milliseconds. -/
def clock : IO String := do
  let now ← Std.Time.PlainDateTime.now
  return now.format "uuuu-MM-dd HH:mm:ss,SSS"

instance : Host IO where
  read path := onPath path (return (← IO.FS.readBinFile path).data.toList)
  write path contents := onPath path (IO.FS.writeBinFile path ⟨contents.toArray⟩)
  makeDirectory path := onPath path (IO.FS.createDir path)
  exists? path := (System.mkFilePath [path]).pathExists
  isDirectory path := (System.mkFilePath [path]).isDir
  print line := IO.println line
  note _ _ := return
  stamp := clock

def settingNames : List String :=
  ["COSESIGN_KEY_PATH", "COSESIGN_OUTPUT_FORMAT", "COSESIGN_EMBED_PUBKEY", "COSESIGN_LOG_LEVEL"]

/-- What this process was started with. -/
def start (words : List String) : IO Program.Start := do
  let bindings ← try IO.FS.readFile ".env" catch _ => pure ""
  let names := settingNames ++ Settings.referencedNames (Settings.readBindings bindings)
  let environment ← names.filterMapM fun name => do
    return (← IO.getEnv name).map fun value => (name, value)
  return ⟨environment, bindings, words⟩

/-- Prints what a run leaves unsaid. -/
def conclude : Program.Ending → IO Unit
  | .stopped (.help program) => IO.println (CommandLine.Invocation.usage program)
  | .stopped (.refused program error) => do
    IO.eprintln (CommandLine.Invocation.usage program)
    IO.eprintln (CommandLine.refusalLine program error)
  | .finished (.aborted failure) => IO.eprintln failure.message
  | .finished _ => return
  | .unlogged error => IO.eprintln error.message

end Rs256Cose.Main

def main (words : List String) : IO UInt32 := do
  let ending ← Rs256Cose.Program.run (m := IO) (← Rs256Cose.Main.start words)
  Rs256Cose.Main.conclude ending
  return UInt32.ofNat ending.status
