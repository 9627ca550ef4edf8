import Regen.Decimal.Nearest
import Regen.Document
import Regen.Text.Integer
import Regen.Yaml.Fault

/-!
# Values of scalars

A plain scalar is a truth value, a number, a time, nothing or a text by its form alone. Integers
may stand in base two, eight, sixteen or sixty, and underscores between digits do not count.
-/

namespace Regen.Yaml

/-- The kinds of node that a tag can name. -/
inductive Kind where
  | null | bool | int | float | time | binary | text | merge | value
  | sequence | mapping | set | orderedMap | pairs
  | unknown
  deriving DecidableEq

/-- The tags of the kinds, without the part that they share. -/
def kindTags : List (String × Kind) :=
  [("null", .null), ("bool", .bool), ("int", .int), ("float", .float), ("timestamp", .time),
   ("binary", .binary), ("str", .text), ("merge", .merge), ("value", .value),
   ("seq", .sequence), ("map", .mapping), ("set", .set), ("omap", .orderedMap),
   ("pairs", .pairs)]

def tagRoot : String := "tag:yaml.org,2002:"

/-- The kind that a full tag names. -/
def Kind.ofTag (tag : String) : Kind :=
  match kindTags.find? fun e => tagRoot ++ e.1 == tag with
  | some e => e.2
  | none => .unknown

namespace Scalar

def isDigit (c : Char) : Bool := '0' ≤ c && c ≤ '9'

def isDigitOrGap (c : Char) : Bool := isDigit c || c == '_'

/-- The characters behind a sign, if there is one. -/
def unsigned : List Char → List Char
  | '+' :: r => r
  | '-' :: r => r
  | r => r

def nullWords : List String := ["", "~", "null", "Null", "NULL"]

def trueWords : List String := ["yes", "true", "on"]

def falseWords : List String := ["no", "false", "off"]

/-- A word in lower case, with a capital or in capitals. -/
def isWordOf (words : List String) (s : String) : Bool :=
  words.any fun w => s == w || s == w.capitalize || s == w.map Char.toUpper

/-- Parts behind colons, each of one digit or of two up to 59. -/
def isSexagesimalTail : List Char → Bool
  | [] => true
  | ':' :: a :: b :: r =>
    if isDigit b then '0' ≤ a && a ≤ '5' && isSexagesimalTail r
    else isDigit a && isSexagesimalTail (b :: r)
  | [':', a] => isDigit a
  | _ => false

def isInt (s : List Char) : Bool :=
  match unsigned s with
  | '0' :: 'b' :: r => !r.isEmpty && r.all fun c => c == '0' || c == '1' || c == '_'
  | '0' :: 'x' :: r =>
    !r.isEmpty && r.all fun c => isDigitOrGap c || ('a' ≤ c && c ≤ 'f') || ('A' ≤ c && c ≤ 'F')
  | '0' :: r => r.all fun c => ('0' ≤ c && c ≤ '7') || c == '_'
  | c :: r => isDigit c && isSexagesimalTail (r.dropWhile isDigitOrGap)
  | [] => false

/-- An exponent with its sign, or nothing. -/
def isExponent : List Char → Bool
  | [] => true
  | e :: sign :: d :: r =>
    (e == 'e' || e == 'E') && (sign == '+' || sign == '-') && (d :: r).all isDigit
  | _ => false

def isFloat (s : List Char) : Bool :=
  let u := unsigned s
  let whole := u.takeWhile isDigitOrGap
  let rest := u.dropWhile isDigitOrGap
  let startsDigit := u.head?.any isDigit
  let decimal := startsDigit && (match rest with
    | '.' :: r => isExponent (r.dropWhile isDigitOrGap)
    | _ => false)
  let fraction := (match s with
    | '.' :: d :: r => isDigit d && isExponent (r.dropWhile isDigitOrGap)
    | _ => false)
  let sixty := startsDigit && !whole.isEmpty && (
    let parts := rest.takeWhile (· ≠ '.')
    match rest.dropWhile (· ≠ '.') with
    | '.' :: r => !parts.isEmpty && isSexagesimalTail parts && r.all isDigitOrGap
    | _ => false)
  let special := [".inf", ".Inf", ".INF"].contains (String.ofList u) ||
    [".nan", ".NaN", ".NAN"].contains (String.ofList s)
  decimal || fraction || sixty || special

/-- A time: its date, its clock with the digits of a fraction, and the offset of its zone. -/
structure Time where
  date : Nat × Nat × Nat
  clock : Option (Nat × Nat × Nat)
  fraction : List Char
  zone : Option Int

def value (ds : List Char) : Nat := ds.foldl (fun v d => v * 10 + (d.toNat - 48)) 0

/-- Between `least` and `most` digits at the head. -/
def digits? (least most : Nat) (s : List Char) : Option (Nat × List Char) :=
  let ds := (s.take most).takeWhile isDigit
  if least ≤ ds.length then some (value ds, s.drop ds.length) else none

def expect? (c : Char) : List Char → Option (List Char)
  | d :: r => if d = c then some r else none
  | [] => none

def zone? (s : List Char) : Option (Option Int) :=
  match s.dropWhile fun c => c == ' ' || c == '\t' with
  | [] => if s.isEmpty then some none else none
  | ['Z'] => some (some 0)
  | sign :: r =>
    if sign = '+' ∨ sign = '-' then do
      let (h, r) ← digits? 1 2 r
      let m ← match r with
        | [] => some 0
        | r => do
          let r ← expect? ':' r
          let (m, r) ← digits? 2 2 r
          if r.isEmpty then some m else none
      let seconds : Int := h * 3600 + m * 60
      some (some (if sign = '-' then -seconds else seconds))
    else none

/-- The parts of a time. `strict` asks for two digits in a date that stands alone. -/
def time? (strict : Bool) (s : List Char) : Option Time := do
  let (y, r) ← digits? 4 4 s
  let r ← expect? '-' r
  let (mo, r1) ← digits? 1 2 r
  let r2 ← expect? '-' r1
  let (d, r3) ← digits? 1 2 r2
  match r3 with
  | [] =>
    if strict && (r.length - r1.length ≠ 2 || r2.length ≠ 2) then none
    else some ⟨(y, mo, d), none, [], none⟩
  | c :: r =>
    let r ← if c = 'T' ∨ c = 't' then some r
      else if c = ' ' ∨ c = '\t' then some (r.dropWhile fun c => c == ' ' || c == '\t')
      else none
    let (h, r) ← digits? 1 2 r
    let (mi, r) ← digits? 2 2 (← expect? ':' r)
    let (sec, r) ← digits? 2 2 (← expect? ':' r)
    let (fraction, r) := match r with
      | '.' :: r => (r.takeWhile isDigit, r.dropWhile isDigit)
      | r => ([], r)
    some ⟨(y, mo, d), some (h, mi, sec), fraction, ← zone? r⟩

/-- A text without the line feed that may end it. -/
def withoutFeed (s : List Char) : List Char :=
  if s.getLast? = some '\n' then s.dropLast else s

/-- The kind of a scalar by its form. A line feed at its end does not count unless it is all. -/
def kindOf (s : String) : Kind :=
  let cs := if s = "\n" then ['\n'] else withoutFeed s.toList
  let s := String.ofList cs
  if isWordOf trueWords s || isWordOf falseWords s then .bool
  else if isFloat cs then .float
  else if isInt cs then .int
  else if s == "<<" then .merge
  else if nullWords.contains s then .null
  else if (time? true cs).isSome then .time
  else if s == "=" then .value
  else if ["!", "&", "*"].contains s then .unknown
  else .text

/-! ### Values -/

def truth (s : String) : Except Fault Document :=
  let w := s.map Char.toLower
  if trueWords.contains w then .ok (.bool true)
  else if falseWords.contains w then .ok (.bool false)
  else .error (.value .badTruth)

/-- A number in a base, perhaps with a sign and the mark of its base, between blanks. -/
def intIn (base : Nat) (s : List Char) : Except Fault Int :=
  match Text.readInt (some base) s with
  | some n => .ok n
  | none => .error (.value .badNumber)

/-- The parts between colons. -/
def parts (s : List Char) : List (List Char) :=
  s.foldr (fun c ps => match ps with
    | [] => if c = ':' then [[], []] else [[c]]
    | p :: ps => if c = ':' then [] :: p :: ps else (c :: p) :: ps) [[]]

def int (s : String) : Except Fault Document := do
  let cs := s.toList.filter (· ≠ '_')
  if cs.isEmpty then throw (.value .noDigits)
  let sign : Int := if cs.head? = some '-' then -1 else 1
  let n ← match unsigned cs with
    | [] => throw (.value .noDigits)
    | ['0'] => pure 0
    | '0' :: 'b' :: r => intIn 2 r
    | '0' :: 'x' :: r => intIn 16 r
    | '0' :: r => intIn 8 ('0' :: r)
    | ds =>
      if ds.contains ':' then do
        let ps ← (parts ds).mapM (intIn 10)
        pure (ps.foldl (fun v d => v * 60 + d) 0)
      else intIn 10 ds
  return .int (sign * n)

/-- The number that decimal digits of any script stand for. -/
def natOf (ds : List Char) : Nat :=
  ds.foldl (fun v d => v * 10 + (Text.decimalDigit? d).getD 0) 0

def isAnyDigit (c : Char) : Bool := (Text.decimalDigit? c).isSome

/-- A number with a fraction or an exponent, or one of the special numbers by name. -/
def decimal (s : List Char) : Except Fault Float := do
  let s := Text.trimPads s
  let negative := s.head? = some '-'
  let u := unsigned s
  let x ←
    if u = "inf".toList ∨ u = "infinity".toList then pure (1.0 / 0.0)
    else if u = "nan".toList then pure (0.0 / 0.0)
    else do
      let whole := u.takeWhile isAnyDigit
      let rest := u.dropWhile isAnyDigit
      let (part, rest) := match rest with
        | '.' :: r => (r.takeWhile isAnyDigit, r.dropWhile isAnyDigit)
        | r => ([], r)
      if whole.isEmpty && part.isEmpty then throw (.value .badNumber)
      let e : Int ← match rest with
        | [] => pure 0
        | 'e' :: r => do
          let ds := unsigned r
          if ds.isEmpty || !ds.all isAnyDigit then throw (.value .badNumber)
          pure (if r.head? = some '-' then -(natOf ds : Int) else natOf ds)
        | _ => throw (.value .badNumber)
      pure (Decimal.Numeral.mk (natOf (whole ++ part)) (e - part.length)).toFloat
  return if negative then -x else x

/-- The number whose parts in base sixty have the given values, the last one first. -/
def sixties : (place : Nat) → (sum : Float) → List Float → Except Fault Float
  | _, sum, [] => .ok sum
  | place, sum, x :: xs =>
    let weight := (Decimal.Numeral.mk (Nat.pow 60 place) 0).toFloat
    if weight.isInf then .error (.value .overflow) else sixties (place + 1) (sum + x * weight) xs

/-- The number that a text stands for. What is no number gets a mark of its own, but the word for
    it always stands for the same one. -/
def float (mark : Nat) (s : String) : Except Fault Document := do
  let cs := (s.toList.filter (· ≠ '_')).map Char.toLower
  if cs.isEmpty then throw (.value .noDigits)
  let u := unsigned cs
  if u = ".nan".toList then return .nan 0
  let x ←
    if u = ".inf".toList then pure (1.0 / 0.0)
    else if u.contains ':' then do sixties 0 0.0 (← (parts u).mapM decimal).reverse
    else decimal u
  if x.isNaN then return .nan (mark + 1)
  return .float (if cs.head? = some '-' then -x else x)

/-- A date, or a date with a time of the day and perhaps a zone less than a day ahead. -/
def time (s : String) : Except Fault Document :=
  match time? false (withoutFeed s.toList) with
  | none => .error (.value .badTime)
  | some t =>
    let (y, m, d) := t.date
    if !Calendar.isDay y m d then .error (.value .badNumber)
    else match t.clock with
      | none => .ok (.date y m d)
      | some (h, mi, sec) =>
        if 23 < h ∨ 59 < mi ∨ 59 < sec ∨ t.zone.any (86400 ≤ ·.natAbs) then .error (.value .badNumber)
        else
          let micro := value ((t.fraction ++ List.replicate 6 '0').take 6)
          .ok (.moment (y, m, d) (h, mi, sec) micro t.zone)

/-- The value of a character of the base64 alphabet. -/
def sextet? (c : Char) : Option Nat :=
  if 'A' ≤ c ∧ c ≤ 'Z' then some (c.toNat - 65)
  else if 'a' ≤ c ∧ c ≤ 'z' then some (c.toNat - 71)
  else if isDigit c then some (c.toNat + 4)
  else if c = '+' then some 62
  else if c = '/' then some 63
  else none

/-- Reads base64 and passes over characters outside its alphabet. `held` holds the bits that
    make no byte yet, `phase` counts the characters of the group of four, `pads` its padding. -/
def base64 : (phase held pads : Nat) → List Char → Option Bytes
  | phase, _, _, [] => if phase = 0 then some [] else none
  | phase, held, pads, c :: r =>
    if c = '=' then
      if 2 ≤ phase ∧ 4 ≤ phase + pads + 1 then some []
      else base64 phase held (if 2 ≤ phase then pads + 1 else pads) r
    else match sextet? c with
      | none => base64 phase held pads r
      | some v =>
        match phase with
        | 0 => base64 1 v 0 r
        | 1 => (UInt8.ofNat (held * 4 + v / 16) :: ·) <$> base64 2 (v % 16) 0 r
        | 2 => (UInt8.ofNat (held * 16 + v / 4) :: ·) <$> base64 3 (v % 4) 0 r
        | _ => (UInt8.ofNat (held * 64 + v) :: ·) <$> base64 0 0 0 r

def binary (s : String) : Except Fault Document :=
  if s.toList.all (·.toNat < 128) then
    match base64 0 0 0 s.toList with
    | some bs => .ok (.octets bs)
    | none => .error .badBase64
  else .error .badBase64

end Scalar
end Regen.Yaml
