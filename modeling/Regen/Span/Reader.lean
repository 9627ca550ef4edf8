import Regen.Span.Basic
import Regen.Span.Literal
import Regen.Span.Token

/-!
# Reading the annotation notation

A file's annotations stand as a sequence of `annotation` fields, each with its fields between
braces or angle brackets. A colon may stand before a bracket and has to stand before a plain
value; repeated fields may also stand as a list in square brackets; a comma or a semicolon may
stand behind a field. A field that stands once is refused when it stands again.
-/

namespace Regen.Span

abbrev Token := List Char

/-- The tokens behind `t` when it stands first. -/
def accept? (t : String) : List Token → Option (List Token)
  | [] => none
  | u :: ts => if u = t.toList then some ts else none

/-- The tokens with the separator at their head left out. -/
def skipSeparator (ts : List Token) : List Token :=
  (accept? "," ts).getD ((accept? ";" ts).getD ts)

/-- The bytes of a quoted token with its closing quote. -/
def quotedToken? (t : Token) : Option Bytes :=
  match t with
  | q :: r =>
    if isQuote q && r.getLast? == some q then unescape? r.dropLast else none
  | [] => none

/-- A text is one quoted token or several in a row. -/
def readText : (first : Bool) → List Token → Option (Bytes × List Token)
  | first, [] => if first then none else some ([], [])
  | first, t :: ts =>
    if first || t.head?.any isQuote then do
      let bs ← quotedToken? t
      let (more, ts) ← readText false ts
      some (bs ++ more, ts)
    else some ([], t :: ts)

def readInt : List Token → Option (Int × List Token)
  | [] => none
  | t :: ts => do
    let n ← octalInteger? t
    if Shape.Kind.int32.holds n then some (n, ts) else none

/-- The names of the ways in which generated code uses an element. -/
def semanticNames : List (Int × String) := [(0, "NONE"), (1, "SET"), (2, "ALIAS")]

/-- The choice that a token names, or the number that it stands for. -/
def semanticOf? (t : Token) : Option Int :=
  match integer? t with
  | some n => some n
  | none => (semanticNames.find? (·.2.toList == t)).map (·.1)

def readSemantic : List Token → Option (Int × List Token)
  | [] => none
  | t :: ts => do
    let n ← semanticOf? t
    if Shape.semantics.contains n then some (n, ts) else none

/-- Elements behind an opening square bracket, up to and with the closing one. -/
def readElements {α : Type} (element : List Token → Option (α × List Token)) :
    Nat → List Token → Option (List α × List Token)
  | 0, _ => none
  | fuel + 1, ts => do
    let (a, ts) ← element ts
    match accept? "]" ts with
    | some ts => some ([a], ts)
    | none => do
      let ts ← accept? "," ts
      let (as, ts) ← readElements element fuel ts
      some (a :: as, ts)

/-- One element, or a list of them in square brackets. -/
def readRepeated {α : Type} (element : List Token → Option (α × List Token)) (ts : List Token) :
    Option (List α × List Token) :=
  match accept? "[" ts with
  | none => do
    let (a, ts) ← element ts
    some ([a], ts)
  | some ts =>
    match accept? "]" ts with
    | some ts => some ([], ts)
    | none => readElements element ts.length ts

/-- The value of the field of an annotation that has a name. -/
def readValue (a : Span) (name : Token) (ts : List Token) : Option (Span × List Token) :=
  if name = "path".toList then do
    let (ns, ts) ← readRepeated readInt ts
    some ({ a with path := a.path ++ ns }, ts)
  else if name = "source_file".toList ∧ a.sourceFile = none then do
    let (bs, ts) ← readText true ts
    let s ← Text.decode? bs
    some ({ a with sourceFile := some s }, ts)
  else if name = "begin".toList ∧ a.beginAt = none then do
    let (n, ts) ← readInt ts
    some ({ a with beginAt := some n }, ts)
  else if name = "end".toList ∧ a.endAt = none then do
    let (n, ts) ← readInt ts
    some ({ a with endAt := some n }, ts)
  else if name = "semantic".toList ∧ a.semantic = none then do
    let (n, ts) ← readSemantic ts
    some ({ a with semantic := some n }, ts)
  else none

/-- One field of an annotation. -/
def readField (a : Span) : List Token → Option (Span × List Token)
  | [] => none
  | name :: ts => do
    let ts ← accept? ":" ts
    let (a, ts) ← readValue a name ts
    some (a, skipSeparator ts)

/-- The fields of an annotation up to and with the token that closes it. -/
def readFields (close : String) : Nat → Span → List Token → Option (Span × List Token)
  | 0, _, _ => none
  | fuel + 1, a, ts =>
    match accept? close ts with
    | some ts => some (a, ts)
    | none => do
      let (a, ts) ← readField a ts
      readFields close fuel a ts

/-- An annotation in its brackets. -/
def readSpan (ts : List Token) : Option (Span × List Token) :=
  match accept? "<" ts with
  | some ts => readFields ">" (ts.length + 1) empty ts
  | none => do
    let ts ← accept? "\x7b" ts
    readFields "\x7d" (ts.length + 1) empty ts

def readAll : Nat → List Token → Option (List Span)
  | _, [] => some []
  | 0, _ :: _ => none
  | fuel + 1, name :: ts => do
    if name ≠ "annotation".toList then none
    else
      let (as, ts) ← readRepeated readSpan ((accept? ":" ts).getD ts)
      let more ← readAll fuel (skipSeparator ts)
      some (as ++ more)

end Regen.Span

/-- The annotations that a text stands for. -/
def Regen.CodeInfo.read? (s : String) : Option CodeInfo :=
  let ts := Span.tokens s.toList
  (Span.readAll ts.length ts).map fun as => ⟨as, []⟩

