import Rs256Cose.Text.Quoted

/-!
# Why a file operation fails

The refusals of the operating system carry its number and the path as it was given. A path that
cannot be given to the system at all, since it holds a NUL or what no file name is written with, is
a case of its own, and so is a file that was opened for writing and not filled.
-/

namespace Rs256Cose.Files

inductive FileError where
  | notFound (path : String)
  | exists (path : String)
  | notDirectory (path : String)
  | isDirectory (path : String)
  /-- The path never reaches the system. -/
  | unusable (complaint : String)
  /-- A refusal of another kind, as the system describes it. -/
  | other (description : String)
  /-- A write that broke off, as the system describes it. -/
  | interrupted (description : String)
  deriving DecidableEq, Repr

namespace FileError

/-- The refusal of the operating system with this number and wording. -/
def systemMessage (number : Nat) (wording path : String) : String :=
  s!"[Errno {number}] {wording}: " ++ Text.quoted path

def message : FileError → String
  | notFound path => systemMessage 2 "No such file or directory" path
  | .exists path => systemMessage 17 "File exists" path
  | notDirectory path => systemMessage 20 "Not a directory" path
  | isDirectory path => systemMessage 21 "Is a directory" path
  | unusable complaint => complaint
  | other description | interrupted description => description

end FileError

end Rs256Cose.Files
