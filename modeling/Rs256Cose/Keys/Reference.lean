import Rs256Cose.Keys.Private

/-!
# One key library

The library with which the program runs. It takes proper public keys, knows the usual algorithms and
named curves, and treats a key for RSASSA-PSS as plain RSA. Of a key that is not RSA only the shape
is looked at, not whether its numbers are a key: a point need not lie on its curve.
-/

namespace Rs256Cose.Keys

open Asn1 Rsa

namespace Reference

/-! ### Identifiers -/

def rsaPss : ObjectIdentifier := [1, 2, 840, 113549, 1, 1, 10]

def ellipticCurve : ObjectIdentifier := [1, 2, 840, 10045, 2, 1]

def dsa : ObjectIdentifier := [1, 2, 840, 10040, 4, 1]

/-- Diffie-Hellman, by PKCS #3 and by X9.42. -/
def diffieHellman : List ObjectIdentifier :=
  [[1, 2, 840, 113549, 1, 3, 1], [1, 2, 840, 10046, 2, 1]]

/-- The algorithms whose keys are byte strings, with the length of each: X25519, X448, Ed25519 and
Ed448. -/
def plainAlgorithms : List (ObjectIdentifier × Nat) :=
  [([1, 3, 101, 110], 32), ([1, 3, 101, 111], 56), ([1, 3, 101, 112], 32), ([1, 3, 101, 113], 57)]

/-- The named curves, with the length of a coordinate on each. -/
def curves : List (ObjectIdentifier × Nat) :=
  [([1, 2, 840, 10045, 3, 1, 1], 24), ([1, 2, 840, 10045, 3, 1, 7], 32)] ++
  [(1, 21), (10, 32), (15, 21), (16, 36), (17, 36), (26, 30), (27, 30), (33, 28), (34, 48),
    (35, 66), (36, 52), (37, 52), (38, 72), (39, 72)].map
      (fun (arc, width) => ([1, 3, 132, 0, arc], width)) ++
  [(7, 32), (11, 48), (13, 64)].map
      (fun (arc, width) => ([1, 3, 36, 3, 3, 2, 8, 1, 1, arc], width))

/-! ### Shapes -/

/-- Whether algorithm parameters are left out or one element of any kind. -/
def isParameters (parameters : Bytes) : Bool :=
  match parameters with
  | [] => true
  | _ => match Der.readElement parameters with
    | some (_, _, []) => true
    | _ => false

/-- What follows as many non-negative INTEGERs as asked for. -/
def skipNumbers : Nat → Bytes → Option Bytes
  | 0, data => some data
  | count + 1, data => (Der.readUnsigned data).bind fun (_, rest) => skipNumbers count rest

/-- Whether data are a SEQUENCE that starts with this many non-negative INTEGERs. -/
def startsWithNumbers (count : Nat) (data : Bytes) : Bool :=
  ((Der.whole Tag.sequence data).bind (skipNumbers count)).isSome

/-- Whether data are one non-negative INTEGER. -/
def isNumber (data : Bytes) : Bool := skipNumbers 1 data = some []

/-- The length of a coordinate on the curve that the parameters name. -/
def curveWidth (parameters : Bytes) : Except Unreadable Nat :=
  match ObjectIdentifier.read parameters with
  | some (curve, []) => match curves.lookup curve with
    | some width => .ok width
    | none => .error (.unsupported s!"Curve {curve.dotted} is not supported")
  | _ => .error .malformed

/-- Whether bytes have the shape of a point, plain or compressed. -/
def isPoint (width : Nat) : Bytes → Bool
  | 0x04 :: point => point.length = 2 * width
  | 0x02 :: point | 0x03 :: point => point.length = width
  | _ => false

/-- Whether data are an ECPrivateKey (RFC 5915). -/
def isCurvePrivateKey (der : Bytes) : Bool :=
  let rest? := do
    let contents ← Der.whole Tag.sequence der
    let (version, rest) ← Der.readUnsigned contents
    let (_, rest) ← Der.read Tag.octetString rest
    if version = 1 then some (skipOptional (Tag.context 1) (skipOptional (Tag.context 0) rest))
    else none
  rest? = some []

/-- The curve that an ECPrivateKey names itself. -/
def ownCurve (der : Bytes) : Option Bytes := do
  let contents ← Der.whole Tag.sequence der
  let (_, rest) ← Der.readUnsigned contents
  let (_, rest) ← Der.read Tag.octetString rest
  let (parameters, _) ← Der.read (Tag.context 0) rest
  return parameters

/-! ### Keys -/

def admits (key : PublicKey) : Bool := key.IsProper

/-- A key of another algorithm, if the data have its shape. -/
def foreignIf {α : Type} (shape : Bool) : Except Unreadable (Found α) :=
  if shape then .ok .foreign else .error .malformed

def publicKey (oid : ObjectIdentifier) (parameters : Bytes) (unused : Nat) (bytes : Bytes) :
    Except Unreadable (Found PublicKey) :=
  let whole := decide (unused = 0)
  if oid = rsaPss then
    match (rsaPublicNumbers bytes).filter admits with
    | some key => if isParameters parameters ∧ whole then .ok (.rsa key) else .error .malformed
    | none => .error .malformed
  else if oid = ellipticCurve then
    (curveWidth parameters).bind fun width => foreignIf (isPoint width bytes && whole)
  else if oid = dsa then
    foreignIf ((isNoParameters parameters || startsWithNumbers 3 parameters) && isNumber bytes &&
      whole)
  else if oid ∈ diffieHellman then
    foreignIf (startsWithNumbers 2 parameters && isNumber bytes && whole)
  else match plainAlgorithms.lookup oid with
  | some length => foreignIf (parameters = [] && bytes.length = length && whole)
  | none =>
    .error (if isParameters parameters then .unsupported s!"Unknown key type: {oid.dotted}"
      else .malformed)

def privateKey (oid : ObjectIdentifier) (parameters key : Bytes) :
    Except Unreadable (Found PrivateKey) :=
  if oid = rsaPss then
    match rsaPrivateNumbers key with
    | some key => if isParameters parameters then .ok (.rsa key) else .error .malformed
    | none => .error .malformed
  else if oid = ellipticCurve then
    (curveWidth parameters).bind fun _ => foreignIf (isCurvePrivateKey key)
  else if oid = dsa then foreignIf (startsWithNumbers 3 parameters && isNumber key)
  else if oid ∈ diffieHellman then foreignIf (startsWithNumbers 2 parameters && isNumber key)
  else match plainAlgorithms.lookup oid with
  | some length =>
    foreignIf (parameters = [] && (Der.whole Tag.octetString key).map List.length = some length)
  | none => .error .malformed

def labelledKey (label contents : Bytes) : Except Unreadable (Found PrivateKey) :=
  if label = curvePrivateLabel then
    match ownCurve contents with
    | some parameters =>
      (curveWidth parameters).bind fun _ => foreignIf (isCurvePrivateKey contents)
    | none => .error .malformed
  else foreignIf (startsWithNumbers 6 contents)

end Reference

instance reference : KeyLibrary where
  admits := Reference.admits
  admitsPrivate _ := true
  checks key := key.exponent < key.modulus && key.modulus % 2 = 1
  publicKey := Reference.publicKey
  privateKey := Reference.privateKey
  labelledKey := Reference.labelledKey
  admits_of_isProper _ h _ := decide_eq_true h
  admitsPrivate_of_isProper _ _ _ _ _ := rfl
  checks_of_isProper key h _ hodd := by simp [h.exponent_lt, hodd]

end Rs256Cose.Keys
