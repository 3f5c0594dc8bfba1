import Rs256Cose.Files.Directories
import Rs256Cose.Keys.Private

/-!
# Signing keys on file

`loadSigningKey` reads the signing key of a file. `provideSigningKey` makes the file with a new key
if there is none at its path, and leaves every file alone that is there.
-/

namespace Rs256Cose.Keys

open Files

/-- Why a key on file cannot be used: the key is refused, or the file cannot be read. -/
inductive LoadError where
  | key (error : KeyFileError)
  | file (error : FileError)
  deriving DecidableEq, Repr

def LoadError.message : LoadError → String
  | .key error => error.message
  | .file error => error.message

/-- How a file that cannot be read counts for a key. -/
def LoadError.ofFileError (path : String) : FileError → LoadError
  | .notFound _ => .key (.refused (.missing path))
  | .unusable _ => .key (.refused (.notPrivateKey path))
  | e => .file e

/-- The signing key in what was read from the file at a path. -/
def signingKeyOf [KeyLibrary] (path : String) :
    Except FileError Bytes → Except LoadError Rsa.PrivateKey
  | .ok text => (parsePrivateKey path text).mapError .key
  | .error e => .error (.ofFileError path e)

/-- The public exponent of new keys. -/
def newExponent : Nat := 65537

/-- A source of new keys in a world: always the same key, each request recorded. -/
def supply (key : Rsa.PrivateKey) (exponent bits : Nat) : StateM World Rsa.PrivateKey :=
  modifyGet fun w => (key, { w with keyRequests := w.keyRequests ++ [(exponent, bits)] })

variable {m : Type → Type} [Monad m] [Host m]

def loadSigningKey [KeyLibrary] (path : String) : m (Except LoadError Rsa.PrivateKey) := do
  return signingKeyOf path (← Host.read path)

/-- Writes a key from `generate`, which is asked for an exponent and a size, to a path at which
nothing exists. The directory is made first. -/
def provideSigningKey (generate : Nat → Nat → m Rsa.PrivateKey) (path : String) :
    m (Except FileError Unit) := do
  if ← Host.exists? path then return .ok ()
  let parent := Path.parent path
  let answer : Except FileError Unit ←
    if parent = "" then pure (.ok ()) else makeDirectories parent
  match answer with
  | .error e => return .error e
  | .ok () =>
    let key ← generate newExponent requiredBits
    Host.write path (encodePrivatePem key)

end Rs256Cose.Keys
