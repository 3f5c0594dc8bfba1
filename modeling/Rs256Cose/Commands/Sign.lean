import Rs256Cose.Commands.Options
import Rs256Cose.Commands.Result

/-!
# Signing a file

`sign` records which key is used in a file beside the input, then reads the input and writes the
signed message, or the bare signature and the public key, beside it.
-/

namespace Rs256Cose.Commands

open Keys Log

variable [KeyLibrary] {m : Type → Type} [Monad m] [Host m]

/-- The message of a file's contents, and its signer's key in DER. -/
def signMessage (l : Logger) (key : Rsa.PrivateKey) (embedKey : Bool) (data : Bytes) :
    ExceptT Failure m (Bytes × Bytes) := do
  let der ← (exportPublicKey key.toPublicKey).mapError Failure.key
  let draft ← (Draft.ofSupplied (.bytes data) (if embedKey then .bytes der else .absent)).mapError
    Failure.unsignable
  let digest ← draft.digest.mapError Failure.unsignable
  log l .debug s!"signed to-be-signed digest {digest.bytes.hex}"
  let wire ← (draft.sign key).mapError Failure.unsignable
  log l .debug s!"encoded COSE_Sign1: {wire.length} bytes (payload {data.length} bytes)"
  return (wire, der)

def signAsMessage (l : Logger) (o : SignOptions) (key : Rsa.PrivateKey) (data : Bytes) :
    ExceptT Failure m Result := do
  let (wire, der) ← signMessage l key o.embedKey data
  writeBeside l o.input ".cosesign1" "COSE_Sign1 object" wire
  if o.verify then
    let _ ← (verify wire (some der)).mapError Failure.ofVerifyError
    log l .info "COSE_Sign1 verification successful"
  return .success

def signRaw (l : Logger) (o : SignOptions) (key : Rsa.PrivateKey) (data : Bytes) :
    ExceptT Failure m Result := do
  let signature := (key.sign (sha256 data)).bytes
  writeBeside l o.input ".sig" "Signature" signature
  writeBeside l o.input ".pub" "Public key" (encodePublicPem key.toPublicKey)
  if o.verify then
    let der ← (exportPublicKey key.toPublicKey).mapError Failure.key
    if ← (verifyDigest der (sha256 data).bytes signature).mapError Failure.ofVerifyError then
      log l .info "Signature verification successful"
    else
      log l .error "Signature verification failed"
      return .failure
  return .success

def sign (l : Logger) (o : SignOptions) : m Result := attempt l "sign" do
  let key ← (← loadSigningKey o.keyPath).mapError Failure.ofLoadError
  let hash := (keyHash key.toPublicKey).bytes
  log l .info s!"Signer public key hash: {hash.hex}"
  writeBeside l o.input ".signerpubkeyhash" "Signer's public key hash" hash
  let data ← readFile o.input
  match o.format with
  | .cosesign1 => signAsMessage l o key data
  | .raw => signRaw l o key data

end Rs256Cose.Commands
