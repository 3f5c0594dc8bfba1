import Rs256Cose.Text.Base64

/-!
# PEM blocks

A PEM block frames base64 between a `BEGIN` and an `END` line that carry the same label (RFC 7468).
`readBlock` finds the first frame in a text; `encode` writes a block in lines of 64 signs. Text
outside of frames does not matter.
-/

namespace Rs256Cose.Text.Pem

structure Block where
  label : Bytes
  contents : Bytes
  deriving DecidableEq, Repr

def dashes : Bytes := List.replicate 5 0x2d

/-- The text `-----BEGIN `. -/
def beginMark : Bytes := dashes ++ Bytes.ofText "BEGIN "

/-- The text `-----END `. -/
def endMark : Bytes := dashes ++ Bytes.ofText "END "

def newline : Bytes := [0x0a]

/-- The white space of ASCII: space, tab, line feed, vertical tab, form feed, carriage return. -/
def isBlank (b : UInt8) : Bool := b == 0x20 || (0x09 ≤ b && b ≤ 0x0d)

/-- The white space that may stand between a `BEGIN` line and the text it opens. -/
def isGap (b : UInt8) : Bool := b == 0x20 || b == 0x09 || b == 0x0a || b == 0x0d

/-! ### Writing -/

/-- The signs in lines of 64, each ended. -/
def lines : Nat → Bytes → Bytes
  | 0, _ => []
  | _ + 1, [] => []
  | fuel + 1, signs => signs.take 64 ++ newline ++ lines fuel (signs.drop 64)

def encode (block : Block) : Bytes :=
  let signs := Base64.encode block.contents
  beginMark ++ block.label ++ dashes ++ newline ++ lines signs.length signs ++
    endMark ++ block.label ++ dashes ++ newline

/-! ### Reading -/

/-- The text before the first occurrence of a mark and the text after it. -/
def cut (mark : Bytes) : Bytes → Option (Bytes × Bytes)
  | [] => if mark = [] then some ([], []) else none
  | b :: rest =>
    if mark.isPrefixOf (b :: rest) then some ([], (b :: rest).drop mark.length)
    else (cut mark rest).map fun (before, after) => (b :: before, after)

/-- The pieces between line feeds. -/
def splitLines : Bytes → List Bytes
  | [] => [[]]
  | b :: rest =>
    if b = 0x0a then [] :: splitLines rest
    else match splitLines rest with
    | line :: more => (b :: line) :: more
    | [] => [[b]]

def trimEnd (line : Bytes) : Bytes := (line.reverse.dropWhile isBlank).reverse

/-- Headers may precede the base64, up to an empty line; each has a colon. The result is the part
after them. -/
def dropHeaders (body : Bytes) : Option Bytes :=
  match (cut [0x0a, 0x0a] body).or (cut [0x0d, 0x0a, 0x0d, 0x0a] body) with
  | none => some body
  | some (headers, rest) => if (splitLines headers).all (·.contains 0x3a) then some rest else none

/-- The bytes that the text between the two lines of a frame stands for. -/
def decodeBody (body : Bytes) : Option Bytes := do
  let signs ← dropHeaders body
  Base64.decode ((splitLines signs).flatMap trimEnd)

/-- The first frame of a text: its block, if it is well formed, and the text after the frame. -/
def readBlock (data : Bytes) : Option (Option Block × Bytes) := do
  let (_, rest) ← cut beginMark data
  let (label, rest) ← cut dashes rest
  let (body, rest) ← cut endMark (rest.dropWhile isGap)
  let (closing, rest) ← cut dashes rest
  if label ≠ closing ∨ label = [] then return (none, rest)
  return ((decodeBody body).map fun contents => ⟨label, contents⟩, rest)

/-- The first block with one of the given labels, if every block before it is well formed. -/
def find (labels : List Bytes) : Nat → Bytes → Option Block
  | 0, _ => none
  | fuel + 1, data =>
    match readBlock data with
    | some (some block, rest) =>
      if block.label ∈ labels then some block else find labels fuel rest
    | _ => none

def find? (labels : List Bytes) (data : Bytes) : Option Block := find labels data.length data

end Rs256Cose.Text.Pem
