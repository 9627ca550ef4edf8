/-!
# Exported identifiers from description names

`camel` turns a dotted, underscored name into one identifier: `foo_bar` gives `FooBar` and
`Outer.Inner` gives `Outer_Inner`. A lower-case letter behind a separator starts a word and the
separator is dropped; an underscore that would start the identifier, or the part behind a dot,
becomes an `X`. Only ASCII letters and digits count as letters and digits.
-/

namespace Regen.Ident

def isLower (c : Char) : Bool := 'a' ≤ c && c ≤ 'z'

def isDigit (c : Char) : Bool := '0' ≤ c && c ≤ '9'

/-- The upper-case form of an ASCII lower-case letter; any other character itself. -/
def raise (c : Char) : Char := if isLower c then Char.ofNat (c.toNat - 32) else c

/-- A lower-case letter stands first. -/
def startsLower : List Char → Bool
  | [] => false
  | c :: _ => isLower c

/-- Where the next character stands: at the start of the name or behind a dot, behind an
    underscore or a digit, or inside a word. -/
inductive Place where
  | start
  | gap
  | word
  deriving DecidableEq

def camelFrom : Place → List Char → List Char
  | _, [] => []
  | p, c :: r =>
    if p = .word ∧ isLower c then c :: camelFrom .word r
    else if c = '.' then
      if startsLower r then camelFrom .start r else '_' :: camelFrom .start r
    else if c = '_' then
      if p = .start then 'X' :: camelFrom .gap r
      else if startsLower r then camelFrom .gap r
      else '_' :: camelFrom .gap r
    else if isDigit c then c :: camelFrom .gap r
    else raise c :: camelFrom .word r

def camelChars (s : List Char) : List Char := camelFrom .start s

/-- The exported identifier for a description name. -/
def camel (s : String) : String := String.ofList (camelChars s.toList)

end Regen.Ident
