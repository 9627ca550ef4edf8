/-!
# Characters from code points

Some code points belong to no character. A high and a low surrogate that stand together make up
one character; a surrogate that stands alone is shown as the replacement character.
-/

namespace Regen.Text

def isHighSurrogate (n : Nat) : Bool := 0xD800 ≤ n && n ≤ 0xDBFF

def isLowSurrogate (n : Nat) : Bool := 0xDC00 ≤ n && n ≤ 0xDFFF

/-- The character with a code point. -/
def charOfCode (n : Nat) : Char :=
  if h : n.isValidChar then Char.ofNatAux n h else '\uFFFD'

/-- The characters that code points stand for. -/
def ofCodes : List Nat → List Char
  | [] => []
  | [n] => [charOfCode n]
  | h :: l :: r =>
    if isHighSurrogate h && isLowSurrogate l then
      charOfCode (0x10000 + (h - 0xD800) * 0x400 + (l - 0xDC00)) :: ofCodes r
    else charOfCode h :: ofCodes (l :: r)

/-- A code point is a surrogate. -/
def isSurrogate (n : Nat) : Bool := isHighSurrogate n || isLowSurrogate n

end Regen.Text
