import Rs256Cose.Error

/-!
# Values supplied for a field

Callers hand over values whose kind is not known beforehand. A field that holds bytes takes a
value only if it is a byte string; any other value is refused under the name of its kind.
-/

namespace Rs256Cose

/-- A value supplied for a field: bytes, no value, or a value of the named other kind. -/
inductive Supplied where
  | bytes (data : Bytes)
  | absent
  | other (kind : String)
  deriving DecidableEq, Repr

namespace Supplied

/-- The name under which a value that is not bytes is refused. -/
def kind : Supplied → String
  | bytes _ => "bytes"
  | absent => "NoneType"
  | other kind => kind

/-- The bytes supplied for `field`. -/
def toBytes (field : String) : Supplied → Except EncodeError Bytes
  | bytes data => .ok data
  | v => .error (.notBytes field v.kind)

end Supplied

end Rs256Cose
