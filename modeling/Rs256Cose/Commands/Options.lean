import Rs256Cose.Bytes

/-!
# What a command is told

The options of each command, after defaults have been filled in.
-/

namespace Rs256Cose.Commands

inductive OutputFormat where
  /-- The signature of the file alone. -/
  | raw
  /-- A signed message that holds the file. -/
  | cosesign1
  deriving DecidableEq, Repr

namespace OutputFormat

def name : OutputFormat → String
  | raw => "raw"
  | cosesign1 => "cosesign1"

def all : List OutputFormat := [raw, cosesign1]

def ofName? (s : String) : Option OutputFormat := all.find? fun format => format.name = s

end OutputFormat

structure SignOptions where
  input : String
  keyPath : String
  format : OutputFormat
  embedKey : Bool
  /-- Whether to check the signature after signing. -/
  verify : Bool
  deriving DecidableEq, Repr

structure VerifyOptions where
  input : String
  /-- The file of the trusted key; an empty path counts as none. -/
  trusted : Option String
  deriving DecidableEq, Repr

structure InspectOptions where
  input : String
  deriving DecidableEq, Repr

end Rs256Cose.Commands
