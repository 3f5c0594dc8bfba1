import Rs256Cose.Bytes

/-!
# White space

The characters that Unicode counts as white space, and the four information separators.
-/

namespace Rs256Cose.Text

def isBlank (c : Char) : Bool :=
  let n := c.toNat
  (0x09 ≤ n && n ≤ 0x0d) || (0x1c ≤ n && n ≤ 0x20) || n == 0x85 || n == 0xa0 || n == 0x1680 ||
    (0x2000 ≤ n && n ≤ 0x200a) || n == 0x2028 || n == 0x2029 || n == 0x202f || n == 0x205f ||
    n == 0x3000

/-- The characters that end a line. -/
def isLineEnd (c : Char) : Bool := c == '\n' || c == '\r'

/-- White space within a line. -/
def isInlineBlank (c : Char) : Bool := isBlank c && !isLineEnd c

end Rs256Cose.Text
