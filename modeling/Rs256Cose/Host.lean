import Rs256Cose.Files.Tree
import Rs256Cose.Log.Severity

/-!
# The machine that commands run on

Commands read and write files, log what they do and print lines. They are written against `Host`, so
that the same command runs on a real machine and on a `World`, a file tree with a record of what was
printed, logged and asked for.
-/

namespace Rs256Cose

open Files

class Host (m : Type → Type) where
  read : String → m (Except FileError Bytes)
  /-- Makes a file or replaces its contents. -/
  write : String → Bytes → m (Except FileError Unit)
  makeDirectory : String → m (Except FileError Unit)
  exists? : String → m Bool
  isDirectory : String → m Bool
  print : String → m Unit
  /-- A line is given to a logger, whether it is printed or not. -/
  note : Log.Severity → String → m Unit
  /-- The time as it stands at the start of a log line. -/
  stamp : m String

structure World where
  files : Tree
  printed : List String
  /-- Each line that was given to a logger. -/
  entries : List (Log.Severity × String)
  /-- The exponent and the size of each new key that was asked for. -/
  keyRequests : List (Nat × Nat)

namespace World

/-- A world in which nothing was done yet. -/
def ofFiles (files : Tree) : World := ⟨files, [], [], []⟩

/-- The answer to a write, and the world after it. -/
def write (w : World) (path : String) (contents : Bytes) : Except FileError Unit × World :=
  let (answer, files) := w.files.store path contents
  (answer, { w with files })

/-- The answer to a call for a directory, and the world after it. -/
def makeDirectory (w : World) (path : String) : Except FileError Unit × World :=
  match w.files.makeDirectory path with
  | .ok files => (.ok (), { w with files })
  | .error e => (.error e, w)

end World

instance : Host (StateM World) where
  read path := do return (← get).files.read path
  write path contents := modifyGet fun w => w.write path contents
  makeDirectory path := modifyGet fun w => w.makeDirectory path
  exists? path := do return (← get).files.exists? path
  isDirectory path := do return (← get).files.isDirectory path
  print line := modify fun w => { w with printed := w.printed ++ [line] }
  note s message := modify fun w => { w with entries := w.entries ++ [(s, message)] }
  stamp := pure "T"

/-- A computation that may fail runs on the machine of the one below it. -/
instance {m : Type → Type} {ε : Type} [Monad m] [Host m] : Host (ExceptT ε m) where
  read path := ExceptT.lift (Host.read path)
  write path contents := ExceptT.lift (Host.write path contents)
  makeDirectory path := ExceptT.lift (Host.makeDirectory path)
  exists? path := ExceptT.lift (Host.exists? path)
  isDirectory path := ExceptT.lift (Host.isDirectory path)
  print line := ExceptT.lift (Host.print line)
  note s message := ExceptT.lift (Host.note s message)
  stamp := ExceptT.lift Host.stamp

end Rs256Cose
