import Regen.Calendar
import Regen.Decimal.Shortest
import Regen.Text.Surrogate
import Regen.Text.Utf8

/-!
# Documents

A document is a plain value: a scalar, a list or a table. Tables keep their entries in order.
Keys are told apart by their value and not by their kind, so the number one, the truth value
`true` and `1.0` are the same key, and so are two times that name the same instant.
-/

namespace Regen

inductive Document where
  | null
  | bool (b : Bool)
  | int (n : Int)
  | float (x : Float)
  /-- What is no number. As keys, two of them are the same when they have the same mark. -/
  | nan (mark : Nat)
  | text (s : String)
  /-- A text by its code points, some of which are surrogates. -/
  | codes (cs : List Nat)
  | octets (bs : Bytes)
  | date (year month day : Nat)
  /-- A point in time: date, time, microseconds and, if told, the seconds that the clock is
      ahead of the world's. -/
  | moment (date time : Nat × Nat × Nat) (micro : Nat) (offset : Option Int)
  | list (xs : List Document)
  | pair (a b : Document)
  | set (xs : List Document)
  | table (entries : List (Document × Document))
  deriving Inhabited

namespace Document

/-- What keys are told apart by. A number that is no integer goes by its bits, and a time by its
    microseconds, which are those of the world's clock when its offset from it is told. -/
inductive Key where
  | null
  | int (n : Int)
  | bits (b : UInt64)
  | nan (mark : Nat)
  | text (s : String)
  | codes (cs : List Nat)
  | octets (bs : Bytes)
  | date (y m d : Nat)
  | moment (micro : Nat)
  | instant (micro : Int)
  deriving DecidableEq

/-- The integer that a finite number is, when it is one. -/
def integer? (x : Float) : Option Int :=
  if x.isFinite then
    let b := Decimal.Binary.ofBits (x.toBits &&& 0x7FFFFFFFFFFFFFFF)
    let n : Nat := if 0 ≤ b.q then b.m * Nat.pow 2 b.q.toNat else b.m / Nat.pow 2 (-b.q).toNat
    if b.q < 0 ∧ b.m % Nat.pow 2 (-b.q).toNat ≠ 0 then none
    else some (if x.toBits >>> 63 = 1 then -(n : Int) else n)
  else none

/-- What makes a document the same key as another; lists, pairs, sets and tables are no keys. -/
def key? : Document → Option Key
  | null => some .null
  | bool b => some (.int (if b then 1 else 0))
  | int n => some (.int n)
  | float x => some (match integer? x with
    | some n => .int n
    | none => .bits x.toBits)
  | nan mark => some (.nan mark)
  | text s => some (.text s)
  | codes cs => some (.codes cs)
  | octets bs => some (.octets bs)
  | date y m d => some (.date y m d)
  | moment d t u none => some (.moment (Calendar.microseconds d t u))
  | moment d t u (some o) => some (.instant ((Calendar.microseconds d t u : Nat) - o * 1000000))
  | list _ | pair _ _ | set _ | table _ => none

/-- Whether two keys are the same. -/
def sameKey (a b : Document) : Bool :=
  match a.key?, b.key? with
  | some j, some k => decide (j = k)
  | _, _ => false

/-- The entries with `v` as the value of `k`; a key that is there keeps its place and form. -/
def putEntry (k v : Document) : List (Document × Document) → List (Document × Document)
  | [] => [(k, v)]
  | (k', v') :: r => if sameKey k' k then (k', v) :: r else (k', v') :: putEntry k v r

/-- The value that a table has for a text. -/
def field? (name : String) (entries : List (Document × Document)) : Option Document :=
  (entries.find? fun e => match e.1 with
    | text s => s == name
    | _ => false).map (·.2)

/-- The name of the kind of a document. -/
def kindName : Document → String
  | null => "NoneType"
  | bool _ => "bool"
  | int _ => "int"
  | float _ | nan _ => "float"
  | text _ | codes _ => "str"
  | octets _ => "bytes"
  | date _ _ _ => "date"
  | moment _ _ _ _ => "datetime"
  | list _ => "list"
  | pair _ _ => "tuple"
  | set _ => "set"
  | table _ => "dict"

/-- Decimal digits of a number, padded on the left with zeros. -/
def padded (width n : Nat) : String :=
  let ds := toString n
  String.ofList (List.replicate (width - ds.length) '0') ++ ds

/-- The digits of a number and the exponent of the first one. -/
def digitsText (d : Decimal.Numeral) : List Char × Int :=
  let ds := (toString d.digits).toList
  (ds, d.exp + ds.length - 1)

/-- A positive number in its shortest form: positional from `1e-4` up to below `1e16`, otherwise
    with an exponent of at least two digits. -/
def positiveText (d : Decimal.Numeral) : String :=
  let (ds, e) := digitsText d
  if -4 ≤ e ∧ e < 16 then
    if e < 0 then "0." ++ String.ofList (List.replicate (-e - 1).toNat '0' ++ ds)
    else
      let whole := (ds ++ List.replicate (e.toNat + 1 - ds.length) '0').take (e.toNat + 1)
      let part := ds.drop (e.toNat + 1)
      String.ofList (whole ++ '.' :: (if part.isEmpty then ['0'] else part))
  else
    let mantissa := match ds with
      | [d] => [d]
      | d :: r => d :: '.' :: r
      | [] => []
    String.ofList mantissa ++ "e" ++ (if e < 0 then "-" else "+") ++ padded 2 e.natAbs

/-- The text of a number with a fraction. -/
def floatText (x : Float) : String :=
  let sign := if x.toBits >>> 63 = 1 then "-" else ""
  if x.isInf then sign ++ "inf"
  else
    let b := Decimal.Binary.ofBits (x.toBits &&& 0x7FFFFFFFFFFFFFFF)
    sign ++ (if b.m = 0 then "0.0" else positiveText b.shortest)

/-- The text of an integer, unless it has too many digits to be shown. -/
def intText (n : Int) : String :=
  if n.natAbs < Nat.pow 10 4300 then toString n else "<unprintable int object>"

def timeText (d t : Nat × Nat × Nat) (micro : Nat) : String :=
  let (y, mo, day) := d
  let (h, mi, s) := t
  let tail := if micro = 0 then (if s = 0 then "" else s!", {s}") else s!", {s}, {micro}"
  s!"datetime.datetime({y}, {mo}, {day}, {h}, {mi}{tail}"

/-- A surrogate is shown by one replacement character for each of its three bytes. -/
def shownCode (n : Nat) : List Char :=
  if Text.isSurrogate n then List.replicate 3 '\uFFFD' else [Text.charOfCode n]

/-- How a key that is neither a text nor a whole number is named in a place of a document. -/
def keyText : Document → String
  | null => "None"
  | bool b => if b then "True" else "False"
  | int n => intText n
  | float x => floatText x
  | nan _ => "nan"
  | text s => s
  | codes cs => String.ofList (cs.flatMap shownCode)
  | octets bs => Text.quotedOctets bs
  | date y m d => s!"datetime.date({y}, {m}, {d})"
  | moment d t u o =>
    timeText d t u ++ (match o with
      | none => ")"
      | some 0 => ", tzinfo=datetime.timezone.utc)"
      | some n =>
        let days := n.fdiv 86400
        let rest := n.fmod 86400
        let delta := if days = 0 then s!"seconds={rest}" else s!"days={days}, seconds={rest}"
        s!", tzinfo=datetime.timezone(datetime.timedelta({delta})))")
  | pair a b => "(" ++ a.keyText ++ ", " ++ b.keyText ++ ")"
  | list _ | set _ | table _ => ""

end Document
end Regen
