import Regen.Text.Printable

/-!
# Quoted texts

The form in which error messages show a text or a path: between single quotes, or between
double quotes when the text holds a single quote and no double one. Backslashes and the quote
in use are escaped, and so is every character that is not shown as itself.
-/

namespace Regen.Text

/-- The digits of `n` in base sixteen, at least `width` of them, in lower case. -/
def hexDigits (width n : Nat) : List Char :=
  let ds := Nat.toDigits 16 n
  List.replicate (width - ds.length) '0' ++ ds

/-- The escape of a character by its code point, in the shortest of the three fixed widths. -/
def codeEscape (n : Nat) : List Char :=
  if n < 0x100 then '\\' :: 'x' :: hexDigits 2 n
  else if n < 0x10000 then '\\' :: 'u' :: hexDigits 4 n
  else '\\' :: 'U' :: hexDigits 8 n

/-- How one character is written between quotes `q`. -/
def quotedChar (q c : Char) : List Char :=
  if c = q ∨ c = '\\' then ['\\', c]
  else if c = '\t' then ['\\', 't']
  else if c = '\n' then ['\\', 'n']
  else if c = '\r' then ['\\', 'r']
  else if isShown c then [c]
  else codeEscape c.toNat

/-- The quote used for a text. -/
def quoteOf (s : List Char) : Char :=
  if '\'' ∈ s ∧ '"' ∉ s then '"' else '\''

def quoted (s : String) : String :=
  let q := quoteOf s.toList
  String.ofList (q :: s.toList.flatMap (quotedChar q) ++ [q])

/-- Bytes between quotes, those that are no shown ASCII characters as escapes. -/
def quotedOctets (bs : List UInt8) : String :=
  let cs := bs.map fun b => Char.ofNat b.toNat
  let q := quoteOf cs
  let shown := cs.flatMap fun c => if c.toNat < 0x80 then quotedChar q c else codeEscape c.toNat
  "b" ++ String.ofList (q :: shown ++ [q])

end Regen.Text
