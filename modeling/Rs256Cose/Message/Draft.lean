import Rs256Cose.Message.ToBeSigned
import Rs256Cose.Message.Wire
import Rs256Cose.Rsa.Pkcs1

/-!
# Drafts

A draft is a message that lacks its signature. The same payload and protected header make the
bytes to be signed and the finished message, so a signature is only ever attached next to the
bytes that it was computed for. A draft tells an absent key from an empty one; messages do not.
-/

namespace Rs256Cose

open Profile

structure Draft where
  payload : Bytes
  key : Option EmbeddedKey
  deriving DecidableEq

namespace Draft

/-- The draft of a payload and an optional key. A key that is too long is refused here, before
anything is signed. -/
def ofSupplied (payload key : Supplied) : Except EncodeError Draft := do
  let payload ← payload.toBytes "payload"
  match key with
  | .absent => return ⟨payload, none⟩
  | key =>
    let der ← key.toBytes "signer public key DER"
    let key ← EmbeddedKey.ofBytes der
    return ⟨payload, some key⟩

/-- The draft that a message was made from, its key counted as given even when it is empty. -/
def ofMessage (m : Message) : Draft := ⟨m.payload, some m.key⟩

/-- The bytes to be signed, in a buffer of their length. -/
def toBeSigned (d : Draft) : Except EncodeError Bytes := do
  let needed ← ToBeSigned.size protectedHeader.length d.payload.length
  let (answer, out) := ToBeSigned.writeInto protectedHeader d.payload (List.replicate needed 0)
  let written ← answer
  if written ≠ needed then throw (.draftSize needed written)
  return out

def digest (d : Draft) : Except EncodeError Digest := d.toBeSigned.map sha256

/-- The wire form of the message with the supplied signature. -/
def attach (d : Draft) (signature : Supplied) : Except EncodeError Bytes := do
  let key := d.key.getD .empty
  let m ← Message.ofSupplied (.bytes d.payload) signature key (.bytes protectedHeader)
  m.encode

/-- The wire form of the message with what a signer answers to the digest. -/
def signWith (d : Draft) (signer : Digest → Supplied) : Except EncodeError Bytes := do
  let digest ← d.digest
  d.attach (signer digest)

def sign (d : Draft) (key : Rsa.PrivateKey) : Except EncodeError Bytes :=
  d.signWith fun digest => .bytes (key.sign digest).bytes

end Draft

end Rs256Cose
