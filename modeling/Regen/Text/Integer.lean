import Regen.Text.Alphanumeric

/-!
# Integers in texts

An integer is a sign and digits of any script, with single underscores between them and blanks
around the whole. The mark of a base, `0b`, `0o` or `0x`, may stand in front of the digits. In
base ten a text of very many digits is not read.
-/

namespace Regen.Text

/-- The value of a decimal digit of any script. A range of digits starts with a zero. -/
def decimalDigit? (c : Char) : Option Nat :=
  if c.toNat < 0x80 then (if c.isDigit then some (c.toNat - 48) else none)
  else (digitRanges.find? fun r => r.1 ≤ c.toNat && c.toNat ≤ r.2).map fun r => (c.toNat - r.1) % 10

/-- The value of a hexadecimal digit of ASCII. -/
def hexDigit? (c : Char) : Option Nat :=
  if '0' ≤ c && c ≤ '9' then some (c.toNat - 48)
  else if 'a' ≤ c && c ≤ 'f' then some (c.toNat - 87)
  else if 'A' ≤ c && c ≤ 'F' then some (c.toNat - 55)
  else none

/-- The value of a digit in a base. -/
def digitIn? (base : Nat) (c : Char) : Option Nat :=
  ((decimalDigit? c).or (hexDigit? c)).filter (· < base)

/-- The blanks around a number; the four information separators are none. -/
def isPad (c : Char) : Bool :=
  c == ' ' || (9 ≤ c.toNat && c.toNat ≤ 13) || (0x80 ≤ c.toNat && isBlank c)

def trimPads (s : List Char) : List Char :=
  ((s.dropWhile isPad).reverse.dropWhile isPad).reverse

/-- The base that the letter of a mark names. -/
def markedBase? (c : Char) : Option Nat :=
  [('b', 2), ('B', 2), ('o', 8), ('O', 8), ('x', 16), ('X', 16)].lookup c

/-- The number that the digits of a base stand for behind those that make up `value`. An underscore
    stands only between two digits; `open_` says that a digit stands in front. -/
def digitsFrom (base : Nat) : (value : Nat) → (open_ : Bool) → List Char → Option Nat
  | v, o, [] => if o then some v else none
  | v, o, c :: r =>
    if c = '_' then if o then digitsFrom base v false r else none
    else match digitIn? base c with
      | some d => digitsFrom base (v * base + d) true r
      | none => none

/-- A number in base ten has at most this many digits. -/
def maxDigits : Nat := 4300

/-- The number that digits stand for in a base. -/
def digits? (base : Nat) (ds : List Char) : Option Nat :=
  if base = 10 ∧ maxDigits < (ds.filter (· ≠ '_')).length then none
  else digitsFrom base 0 false ds

/-- Digits behind a mark, perhaps with one underscore between. -/
def markedDigits? (base : Nat) : List Char → Option Nat
  | '_' :: r => digits? base r
  | r => digits? base r

/-- The number without its sign. Without a base, its mark tells it, and otherwise it is ten; then
    only zero starts with a zero. -/
def magnitude? (base : Option Nat) (ds : List Char) : Option Nat :=
  let plain := match base with
    | some b => digits? b ds
    | none => (digits? 10 ds).filter fun n => ds.head? ≠ some '0' || n = 0
  match ds with
  | '0' :: c :: r =>
    match markedBase? c with
    | some b => if base.all (· = b) then markedDigits? b r else plain
    | none => plain
  | _ => plain

/-- The integer that a text stands for in a base, or in the base that it names. -/
def readInt (base : Option Nat) (s : List Char) : Option Int :=
  match trimPads s with
  | '-' :: r => (magnitude? base r).map fun n => -(n : Int)
  | '+' :: r => (magnitude? base r).map fun n => (n : Int)
  | r => (magnitude? base r).map fun n => (n : Int)

end Regen.Text
