import Rs256Cose.Commands.Options
import Rs256Cose.Commands.Result

/-!
# Looking at a signed message

`verify` checks the message in a file, under the trusted key of another file if one is named.
`inspect` shows the parts of the message in a file without checking it. Both print one JSON object.
-/

namespace Rs256Cose.Commands

open Keys Log

variable [KeyLibrary] {m : Type → Type} [Monad m] [Host m]

/-- The trusted key, in the one DER form that it has. -/
def readTrustedKey (path : String) : ExceptT Failure m Bytes := do
  let file ← readFile path
  let key ← (loadPublicKey file).mapError Failure.ofKeyFileError
  return ← (exportPublicKey key).mapError Failure.key

def verifiedText (v : Verified) : String :=
  objectText [("ok", "true"), ("payload_sha256", hexText (sha256 v.payload).bytes),
    ("payload_size", toString v.payload.length),
    ("signer_pub_key_der_size", toString v.key.der.length)]

def verifyFile (l : Logger) (o : VerifyOptions) : m Result := attempt l "verify" do
  let data ← readFile o.input
  let trusted ← match o.trusted with
    | none | some "" => pure none
    | some path => some <$> readTrustedKey path
  let verified ← (verify data trusted).mapError Failure.ofVerifyError
  Host.print (verifiedText verified)
  return .success

def messageText (message : Message) : String :=
  objectText [("payload_sha256", hexText (sha256 message.payload).bytes),
    ("payload_size", toString message.payload.length),
    ("protected_header", hexText Profile.protectedHeader),
    ("signature", hexText message.signature.bytes),
    ("signer_pub_key_der", hexText message.key.der),
    ("tag", toString Profile.tagByte.toNat)]

def inspectFile (l : Logger) (o : InspectOptions) : m Result := attempt l "inspect" do
  let data ← readFile o.input
  let message ← (Message.decode data).mapError Failure.undecodable
  Host.print (messageText message)
  return .success

end Rs256Cose.Commands
