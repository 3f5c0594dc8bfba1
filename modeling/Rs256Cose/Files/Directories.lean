import Rs256Cose.Host

/-!
# Making directories

`makeDirectories` makes a directory with those above it that are missing, from the outermost on.
A directory that is there already is no failure.
-/

namespace Rs256Cose.Files

variable {m : Type → Type} [Monad m] [Host m]

/-- Makes one directory; a refusal of the system counts only if there is none afterwards. -/
def provideDirectory (path : String) : m (Except FileError Unit) := do
  let answer : Except FileError Unit ← Host.makeDirectory path
  match answer with
  | .ok () => return .ok ()
  | .error (.unusable complaint) => return .error (.unusable complaint)
  | .error e => return if ← Host.isDirectory path then .ok () else .error e

/-- Makes the first directory of a lineage, after the others if the second does not exist. -/
def provideLineage : List (String × String) → m (Except FileError Unit)
  | [] => return .ok ()
  | [(path, _)] => provideDirectory path
  | (path, name) :: (above, aboveName) :: rest => do
    if ← Host.exists? above then provideDirectory path
    else
      let answer : Except FileError Unit ← provideLineage ((above, aboveName) :: rest)
      match answer with
      | .ok () | .error (.exists _) =>
        if name = "." then return .ok () else provideDirectory path
      | .error e => return .error e

def makeDirectories (path : String) : m (Except FileError Unit) :=
  provideLineage (Path.lineage path.toList)

end Rs256Cose.Files
