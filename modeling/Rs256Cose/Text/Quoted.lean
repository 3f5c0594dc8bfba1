import Rs256Cose.Text.Printable

/-!
# Quoted text

Text is shown between single quotes, or between double quotes if it holds single quotes and no
double ones. The quote in use and the backslash are escaped, and so is every character that is
not printable: by name for tab, line feed and carriage return, by its number otherwise.
-/

namespace Rs256Cose.Text

/-- A number in lower-case hexadecimal, filled with zeros to a width. -/
def paddedHex (width n : Nat) : List Char :=
  let digits := Nat.toDigits 16 n
  List.replicate (width - digits.length) '0' ++ digits

/-- A character inside the given quotes. -/
def escape (quote c : Char) : List Char :=
  if c = quote ∨ c = '\\' then ['\\', c]
  else if c = '\t' then ['\\', 't']
  else if c = '\n' then ['\\', 'n']
  else if c = '\r' then ['\\', 'r']
  else if isPrintable c then [c]
  else if c.toNat < 0x100 then '\\' :: 'x' :: paddedHex 2 c.toNat
  else if c.toNat < 0x10000 then '\\' :: 'u' :: paddedHex 4 c.toNat
  else '\\' :: 'U' :: paddedHex 8 c.toNat

/-- The quote that stands around a text. -/
def quoteFor (s : List Char) : Char := if '\x27' ∈ s ∧ '"' ∉ s then '"' else '\x27'

def quoted (s : String) : String :=
  let quote := quoteFor s.toList
  String.ofList (quote :: s.toList.flatMap (escape quote) ++ [quote])

end Rs256Cose.Text
