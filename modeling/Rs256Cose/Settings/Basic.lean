import Rs256Cose.Settings.Interpolation
import Rs256Cose.Text.UpperCase

/-!
# Settings

Four variables choose the defaults of the commands. A variable is looked up in the environment
first, where even an empty value counts, then in the binding file, whose values may refer to others.
-/

namespace Rs256Cose

structure Settings where
  keyPath : String
  outputFormat : String
  embedKey : Bool
  logLevel : String
  deriving DecidableEq, Repr

namespace Settings

def outputFormats : List String := ["raw", "cosesign1"]

/-- The value of a variable; among several bindings of it the last one counts. -/
def value? (environment : Environment) (bindings : List Binding) (name : String) : Option String :=
  (environment.lookup name).or
    ((binding? (resolveBindings environment bindings) name).bind Binding.value)

/-- Whether a text is `true`, in any mixture of cases. -/
def isTrue (s : String) : Bool := s.toList.map Char.toLower = "true".toList

/-- The settings under an environment and the text of a binding file. -/
def load (environment : Environment) (file : String) : Settings :=
  let get (name fallback : String) : String :=
    (value? environment (readBindings file) name).getD fallback
  { keyPath := get "COSESIGN_KEY_PATH" "keys/signer_rsa2048_sk.pem"
    outputFormat := get "COSESIGN_OUTPUT_FORMAT" "cosesign1"
    embedKey := isTrue (get "COSESIGN_EMBED_PUBKEY" "true")
    logLevel := Text.upperCase (get "COSESIGN_LOG_LEVEL" "INFO") }

end Settings

end Rs256Cose
