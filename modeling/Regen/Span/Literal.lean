import Regen.Text.CharacterName
import Regen.Text.Integer
import Regen.Text.Utf8

/-!
# Literals of the annotation notation

Integers stand in base ten, or behind the mark of a base. Quoted texts hold escapes, which are
resolved in three rounds: a hexadecimal escape of one digit gets a second one; the escapes of code
points become their characters; the remaining escapes of the text's bytes become bytes.
-/

namespace Regen.Span

/-! ### Integers -/

/-- The integer that a token stands for; a leading zero is only for the marks of bases. -/
def integer? (t : List Char) : Option Int := Text.readInt none t

/-- As `integer?`, but digits behind a leading zero are in base eight. -/
def octalInteger? (t : List Char) : Option Int :=
  let (sign, ds) := match t with
    | '-' :: r => ((-1 : Int), r)
    | r => (1, r)
  match ds with
  | '0' :: d :: r =>
    if (d :: r).all Char.isDigit then (Text.digits? 8 (d :: r)).map fun n => sign * n
    else integer? t
  | _ => integer? t

def isHex (c : Char) : Bool := (Text.hexDigit? c).isSome

/-! ### Quoted texts -/

/-- Gives every hexadecimal escape of one digit a second one. `odd` says that an odd number of
    backslashes stands in front. -/
def widenHex : (odd : Bool) → List Char → List Char
  | _, [] => []
  | odd, '\\' :: r => '\\' :: widenHex (!odd) r
  | true, 'x' :: h :: r =>
    if isHex h && !(r.head?.any isHex) then 'x' :: '0' :: h :: widenHex false r
    else 'x' :: widenHex false (h :: r)
  | _, c :: r => c :: widenHex false r

/-- The number that exactly `n` hexadecimal digits stand for, and what stands behind them. -/
def hexPrefix? (n : Nat) (s : List Char) : Option (Nat × List Char) :=
  let ds := s.take n
  if ds.length = n then do
    let vs ← ds.mapM Text.hexDigit?
    some (vs.foldl (fun v d => v * 16 + d) 0, s.drop n)
  else none

/-- A code point that is a character. -/
def char? (n : Nat) : Option Char :=
  if h : n.isValidChar then some (Char.ofNatAux n h) else none

/-- Resolves the escapes of code points. A character beyond the first 256 counts as such an
    escape, so a backslash in front of it takes the escape's own backslash away. -/
def codePoints : Nat → List Char → Option (List Char)
  | 0, _ => some []
  | _ + 1, [] => some []
  | fuel + 1, '\\' :: 'u' :: r => do
    let (n, r) ← hexPrefix? 4 r
    let c ← char? n
    (c :: ·) <$> codePoints fuel r
  | fuel + 1, '\\' :: 'U' :: r => do
    let (n, r) ← hexPrefix? 8 r
    let c ← char? n
    (c :: ·) <$> codePoints fuel r
  | fuel + 1, '\\' :: c :: r =>
    if c.toNat < 0x100 then ('\\' :: c :: ·) <$> codePoints fuel r
    else ('\\' :: Text.codeEscape c.toNat ++ ·) <$> codePoints fuel r
  | fuel + 1, c :: r => (c :: ·) <$> codePoints fuel r

/-- The byte that an escape of one letter stands for. -/
def letterByte? (c : Char) : Option Nat :=
  [('\\', 92), ('"', 34), ('a', 7), ('b', 8), ('f', 12), ('n', 10), ('r', 13), ('t', 9),
   ('v', 11), (Char.ofNat 39, 39)].lookup c

def isOctal (c : Char) : Bool := '0' ≤ c && c ≤ '7'

/-- A value that is a byte. -/
def byte? (n : Nat) : Option UInt8 := if n < 256 then some (UInt8.ofNat n) else none

/-- The code point of the character that a name in braces stands for, and what stands behind it. -/
def namePrefix? : List Char → Option (Nat × List Char)
  | '\x7b' :: r => do
    let name := r.takeWhile (· ≠ '\x7d')
    if name.length = r.length then none
    let n ← Text.CharacterName.codeNamed? name
    some (n, r.drop (name.length + 1))
  | _ => none

/-- Resolves the remaining escapes. The characters stand for one byte each. -/
def byteEscapes : Nat → List Char → Option Bytes
  | 0, _ => some []
  | _ + 1, [] => some []
  | _ + 1, ['\\'] => none
  | fuel + 1, '\\' :: c :: r =>
    match letterByte? c with
    | some n => (UInt8.ofNat n :: ·) <$> byteEscapes fuel r
    | none =>
      if isOctal c then
        let ds := c :: (r.take 2).takeWhile isOctal
        do
          let b ← byte? (ds.foldl (fun v d => v * 8 + (d.toNat - 48)) 0)
          (b :: ·) <$> byteEscapes fuel (r.drop (ds.length - 1))
      else if c = 'x' ∨ c = 'u' ∨ c = 'U' then do
        let (n, r) ← hexPrefix? (if c = 'x' then 2 else if c = 'u' then 4 else 8) r
        let b ← byte? n
        (b :: ·) <$> byteEscapes fuel r
      else if c = 'N' then do
        let (n, r) ← namePrefix? r
        let b ← byte? n
        (b :: ·) <$> byteEscapes fuel r
      else (fun bs => 92 :: UInt8.ofNat c.toNat :: bs) <$> byteEscapes fuel r
  | fuel + 1, c :: r => (UInt8.ofNat c.toNat :: ·) <$> byteEscapes fuel r

/-- The bytes that stand between the quotes of a quoted text. -/
def unescape? (s : List Char) : Option Bytes := do
  let s := widenHex false s
  let s ← codePoints s.length s
  let s := (Text.encode s).map fun b => Char.ofNat b.toNat
  byteEscapes s.length s

end Regen.Span
