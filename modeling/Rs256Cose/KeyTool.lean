import Rs256Cose.Commands.Result
import Rs256Cose.Settings.Basic

/-!
# The key tool

`run` makes the signing key at a path if there is none, and writes its public half to a file whose
name has the suffix `.pub.pem` in place of its own.
-/

namespace Rs256Cose.KeyTool

open Files Keys Commands

/-- The path of the public key that goes with a private key. -/
def publicPath (path : String) : String := Path.root path ++ ".pub.pem"

variable [KeyLibrary] {m : Type → Type} [Monad m] [Host m]

def run (generate : Nat → Nat → m Rsa.PrivateKey) (path : String) : ExceptT Failure m Unit := do
  let provided : Except FileError Unit ← ExceptT.lift (provideSigningKey generate path)
  provided.mapError Failure.file
  let key ← (← loadSigningKey path).mapError Failure.ofLoadError
  (← Host.write (publicPath path) (encodePublicPem key.toPublicKey)).mapError Failure.file
  let hash := (keyHash key.toPublicKey).bytes.hex
  Host.print s!"Generated: {path}, {publicPath path} (signer key hash {hash})"

/-- The path in the words after the tool's name, or else in the settings. -/
def pathOf (settings : Settings) : List String → String
  | path :: _ => path
  | [] => settings.keyPath

end Rs256Cose.KeyTool
