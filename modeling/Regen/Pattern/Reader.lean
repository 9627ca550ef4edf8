import Regen.Assoc
import Regen.Pattern.Search
import Regen.Text.CharacterName
import Regen.Text.Integer
import Regen.Text.Name

/-!
# Reading a pattern from its text

The notation is the usual one of search patterns: `.`, `^`, `$`, sets in square brackets,
escapes, `*`, `+`, `?` and counted repetition with their hesitant and possessive forms, groups
with and without a memory, named groups and references, looking ahead and behind, atomic
groups, conditions and flags. Text that follows the notation nowhere is refused as a whole.
-/

namespace Regen.Pattern

/-- How characters are compared and places understood. -/
structure Flags where
  fold : Bool
  lines : Bool
  all : Bool
  spaced : Bool
  ascii : Bool

/-- Which characters count as the same. -/
def Flags.folding (f : Flags) : Fold :=
  if !f.fold then .exact else if f.ascii then .ascii else .full

def Flags.none : Flags := ⟨false, false, false, false, false⟩

/-- What has been read so far. -/
structure Progress where
  rest : List Char
  /-- The index of the next group. -/
  next : Nat
  names : List (String × Nat)
  /-- Groups that are open. -/
  opened : List Nat
  /-- The least and the greatest count of characters that a closed group reads. -/
  widths : List (Nat × Nat × Option Nat)
  /-- Inside a look behind: the next group when it was opened. -/
  behind : Option Nat
  /-- Groups that conditions name. -/
  asked : List Nat
  /-- A look behind whose width is not fixed has been read. -/
  loose : Bool
  /-- A look behind has been read whose width is fixed, but more than can be looked at. -/
  wide : Bool
  /-- A repetition has been read. -/
  repeats : Bool
  /-- How many more groups may be opened inside each other. -/
  room : Nat

/-- Why a text is no pattern. -/
inductive Refusal where
  /-- It does not follow the notation. -/
  | malformed
  /-- The count of a repetition is too large for any pattern. -/
  | countTooLarge
  /-- An escape names a code that is too large for any character. -/
  | codeTooLarge
  /-- Groups stand in each other too often. -/
  | tooDeep
  /-- It looks further behind than can be looked. -/
  | tooWide
  deriving DecidableEq

abbrev Reading := StateT Progress (Except Refusal)

/-- What stands behind the first `close` that no backslash stands before; nothing inside when there
    is no such character, and nothing at all when the text ends with a lone backslash. -/
def behindFirst (close : Char) : List Char → Option (Option (List Char))
  | [] => some none
  | '\\' :: [] => none
  | '\\' :: _ :: r => behindFirst close r
  | c :: r => if c = close then some (some r) else behindFirst close r

namespace Reading

def refuse {α : Type} : Reading α := throw .malformed

def peek : Reading (Option Char) := do return (← get).rest.head?

/-- The next character; refuses the end. -/
def take : Reading Char := do
  match (← get).rest with
  | [] => refuse
  | c :: r => modify ({ · with rest := r }); return c

def drop (n : Nat) : Reading Unit := modify fun p => { p with rest := p.rest.drop n }

/-- Skips the character when it stands next, and tells whether it did. -/
def skip (c : Char) : Reading Bool := do
  if (← peek) = some c then drop 1; return true else return false

def need (c : Char) : Reading Unit := do
  if !(← skip c) then refuse

/-- The characters up to the next `close`, which is skipped; there has to be one at least. -/
def upTo (close : Char) : Reading (List Char) := do
  let p ← get
  let name := p.rest.takeWhile (· ≠ close)
  drop name.length
  need close
  if name.isEmpty then refuse
  return name

/-- Skips a text up to the first `close`, and that one too. Tells whether there is one. -/
def skipPast (close : Char) : Reading Bool := do
  match behindFirst close (← get).rest with
  | none => refuse
  | some none => modify ({ · with rest := [] }); return false
  | some (some r) => modify ({ · with rest := r }); return true

/-- At most `n` characters that pass the test. -/
def atMost (n : Nat) (test : Char → Bool) : Reading (List Char) := do
  let s := ((← get).rest.take n).takeWhile test
  drop s.length
  return s

end Reading

open Reading

/-- A blank that means nothing where patterns are written with blanks. -/
def isSpacing (c : Char) : Bool := c = ' ' || (9 ≤ c.toNat && c.toNat ≤ 13)

def digitValue (c : Char) : Nat :=
  if c.isDigit then c.toNat - 48 else if 'a' ≤ c then c.toNat - 87 else c.toNat - 55

def isHexDigit (c : Char) : Bool :=
  c.isDigit || ('a' ≤ c && c ≤ 'f') || ('A' ≤ c && c ≤ 'F')

def isOctalDigit (c : Char) : Bool := '0' ≤ c && c ≤ '7'

def valueIn (base : Nat) (ds : List Char) : Nat := ds.foldl (fun v d => v * base + digitValue d) 0

/-- The code point that at most three octal digits stand for. -/
def octalCode (ds : List Char) : Reading Nat :=
  if valueIn 8 ds < 256 then return valueIn 8 ds else refuse

/-- Codes of characters are below this, whether there is such a character or not. -/
def maxCode : Nat := Nat.pow 2 31

/-- The code point that exactly `n` hexadecimal digits stand for. -/
def hexCode (n : Nat) : Reading Nat := do
  let ds ← atMost n isHexDigit
  let code := valueIn 16 ds
  if ds.length ≠ n then refuse
  if maxCode ≤ code then throw .codeTooLarge
  if code < 0x110000 then return code else refuse

/-- The code point of the character whose name stands in braces. -/
def namedCode : Reading Nat := do
  need '\x7b'
  match Text.CharacterName.codeNamed? (← upTo '\x7d') with
  | some code => return code
  | none => refuse

/-- The control characters that have a letter. -/
def letterEscape? (c : Char) : Option Char :=
  [('a', '\x07'), ('b', '\x08'), ('f', '\x0c'), ('n', '\n'), ('r', '\r'), ('t', '\t'),
   ('v', '\x0b'), ('\\', '\\')].lookup c

def classEscape? (ascii : Bool) (c : Char) : Option Item :=
  [('d', Item.class_ false ascii .digit), ('D', .class_ true ascii .digit),
   ('s', .class_ false ascii .space), ('S', .class_ true ascii .space),
   ('w', .class_ false ascii .word), ('W', .class_ true ascii .word)].lookup c

/-- The rest of an escape that stands for one character, behind its letter `c`. -/
def plainEscape (c : Char) : Reading Nat := do
  if c = 'x' then hexCode 2
  else if c = 'u' then hexCode 4
  else if c = 'U' then hexCode 8
  else if c = 'N' then namedCode
  else if c.isAlpha then refuse
  else return c.toNat

/-- An item behind a backslash inside a set. -/
def setEscape (ascii : Bool) : Reading Item := do
  let c ← take
  match letterEscape? c, classEscape? ascii c with
  | some d, _ => return .char d.toNat
  | _, some item => return item
  | _, _ =>
    if isOctalDigit c then
      let ds ← atMost 2 isOctalDigit
      return .char (← octalCode (c :: ds))
    else if c.isDigit then refuse
    else return .char (← plainEscape c)

def setItem (ascii : Bool) : Reading Item := do
  let c ← take
  if c = '\\' then setEscape ascii else return .char c.toNat

/-- The items of a set up to its closing bracket. -/
def setItems (ascii : Bool) : Nat → (first : Bool) → Reading (List Item)
  | 0, _ => refuse
  | fuel + 1, first => do
    if !first then
      if ← skip ']' then return []
    let low ← setItem ascii
    if (← peek) = some '-' then
      drop 1
      if ← skip ']' then return [low, .char 45]
      match low, ← setItem ascii with
      | .char a, .char b =>
        if b < a then refuse
        return .range a b :: (← setItems ascii fuel false)
      | _, _ => refuse
    else return low :: (← setItems ascii fuel false)

/-- The least and the greatest count of characters that a node reads. -/
def Node.width (groups : List (Nat × Nat × Option Nat)) : Node → Nat × Option Nat
  | .empty | .never | .place _ | .ahead _ _ | .behind _ _ _ => (0, some 0)
  | .set _ _ _ | .any _ => (1, some 1)
  | .seq a b =>
    let (l, h) := a.width groups
    let (l', h') := b.width groups
    (l + l', do some ((← h) + (← h')))
  | .alt a b | .given _ a b =>
    let (l, h) := a.width groups
    let (l', h') := b.width groups
    (min l l', do some (max (← h) (← h')))
  | .repeated least most _ body =>
    let (l, h) := body.width groups
    (l * least, if h = some 0 ∨ most = some 0 then some 0 else do some ((← h) * (← most)))
  | .group _ body | .atomic body => body.width groups
  | .same index _ => (groups.lookup index).getD (0, none)

/-- Something that has been read, and whether it may be repeated. -/
inductive Piece where
  | item (n : Node)
  | spot (n : Node)
  | again (n : Node)

def Piece.node : Piece → Node
  | item n | spot n | again n => n

/-- The sequence of pieces that are kept in reverse. -/
def sequenceOf (ps : List Piece) : Node :=
  ps.foldl (fun n p => match n with
    | .empty => p.node
    | n => .seq p.node n) .empty

/-- A group that may be referred to here. -/
def checkReference (index : Nat) : Reading Unit := do
  let p ← get
  if p.opened.contains index then refuse
  match p.behind with
  | some first => if first ≤ index then refuse
  | none => return ()

/-- An escape outside of sets. -/
def escape (flags : Flags) : Reading Piece := do
  let c ← take
  let place (p : Place) : Reading Piece := return .spot (.place p)
  let char (code : Nat) : Piece := .item (.ofItems false flags.folding [.char code])
  if c = 'A' then place .start
  else if c = 'Z' then place .stop
  else if c = 'b' then place (.border false flags.ascii)
  else if c = 'B' then place (.border true flags.ascii)
  else match classEscape? flags.ascii c, letterEscape? c with
  | some item, _ => return .item (.ofItems false flags.folding [item])
  | _, some d => return char d.toNat
  | _, _ =>
    if c = '0' then return char (← octalCode (← atMost 2 isOctalDigit))
    else if c.isDigit then
      let more ← atMost 1 Char.isDigit
      let third ← if isOctalDigit c && more.any isOctalDigit then atMost 1 isOctalDigit else pure []
      if !third.isEmpty then return char (← octalCode (c :: more ++ third))
      let index := valueIn 10 (c :: more)
      if (← get).next ≤ index then refuse
      checkReference index
      return .item (.same index flags.folding)
    else return char (← plainEscape c)

/-- Counts of repetitions are below this. -/
def maxCount : Nat := Nat.pow 2 32 - 1

/-- The widths of looks behind are below this. -/
def maxLook : Nat := Nat.pow 2 31

/-- The count that digits stand for; nothing without digits. -/
def count? (ds : List Char) : Reading (Option Nat) := do
  if ds.isEmpty then return none
  match Text.digits? 10 ds with
  | none => refuse
  | some n => if maxCount ≤ n then throw .countTooLarge else return some n

/-- The bounds of a counted repetition behind its opening brace; nothing when it is none. -/
def bounds? : Reading (Option (Nat × Option Nat)) := do
  let start ← get
  let low := start.rest.takeWhile Char.isDigit
  drop low.length
  let comma ← skip ','
  let high := (← get).rest.takeWhile Char.isDigit
  let high := if comma then high else []
  drop high.length
  let closed ← skip '\x7d'
  if start.rest.head? = some '\x7d' ∨ !closed then
    set start
    return none
  let least := (← count? low).getD 0
  let most ← if comma then count? high else pure (if low.isEmpty then none else some least)
  if most.any (· < least) then refuse
  return some (least, most)

/-- Repeats the piece at the head. -/
def repeatHead (least : Nat) (most : Option Nat) (ps : List Piece) : Reading (List Piece) :=
  match ps with
  | .item n :: ps => do
    modify ({ · with repeats := true })
    if ← skip '?' then return .again (.repeated least most false n) :: ps
    if ← skip '+' then return .again (.atomic (.repeated least most true (.atomic n))) :: ps
    return .again (.repeated least most true n) :: ps
  | _ => refuse

/-- The flags with the one that a letter stands for turned on or off. -/
def setFlag (on : Bool) (f : Flags) : Char → Option Flags
  | 'i' => some { f with fold := on }
  | 'm' => some { f with lines := on }
  | 's' => some { f with all := on }
  | 'x' => some { f with spaced := on }
  | 'a' => if on then some { f with ascii := true } else none
  | 'u' => if on then some { f with ascii := false } else none
  | _ => none

def setFlags (on : Bool) (f : Flags) (cs : List Char) : Option Flags := cs.foldlM (setFlag on) f

/-- The letters ask for the character classes of ASCII and for the full ones. -/
def hasBothClasses (cs : List Char) : Bool := cs.contains 'a' && cs.contains 'u'

/-- The letters of flags that a group turns on and off, up to the character behind them. -/
def flagLetters : Reading (List Char × Option (List Char)) := do
  let on := (← get).rest.takeWhile Char.isAlpha
  drop on.length
  if ← skip '-' then
    let off := (← get).rest.takeWhile Char.isAlpha
    drop off.length
    if off.isEmpty then refuse
    return (on, some off)
  return (on, none)

/-- Goes into a group. -/
def enter : Reading Unit := do
  match (← get).room with
  | 0 => throw .tooDeep
  | n + 1 => modify ({ · with room := n })

/-- Goes out of a group again. -/
def leave : Reading Unit := modify fun p => { p with room := p.room + 1 }

/-- Opens a group and gives its index. -/
def openGroup (name : Option String) : Reading Nat := do
  let p ← get
  match name with
  | some n => if (p.names.lookup n).isSome then refuse
  | none => pure ()
  let names := match name with
    | some n => (n, p.next) :: p.names
    | none => p.names
  set { p with next := p.next + 1, names := names, opened := p.next :: p.opened }
  return p.next

def closeGroup (index : Nat) (body : Node) : Reading Unit :=
  modify fun p => { p with
    opened := p.opened.filter (· ≠ index), widths := (index, body.width p.widths) :: p.widths }

/-- The index of the group that a condition names. -/
def conditionGroup (name : List Char) : Reading Nat := do
  let p ← get
  if Text.isName name then
    match p.names.lookup (String.ofList name) with
    | some i => return i
    | none => refuse
  else
    match Text.readInt (some 10) name with
    | some (.ofNat (i + 1)) =>
      set { p with asked := (i + 1) :: p.asked }
      return i + 1
    | _ => refuse

/-- Inside a look behind, a condition is on a group that was closed before it. -/
def checkCondition (index : Nat) : Reading Unit := do
  let p ← get
  match p.behind with
  | none => return ()
  | some first => if p.opened.contains index ∨ first ≤ index then refuse

mutual

/-- Alternatives up to a closing parenthesis or the end. -/
def readChoice : Nat → Flags → Reading Node
  | 0, _ => refuse
  | fuel + 1, flags => do
    let first ← readSequence fuel flags []
    return .choice flags.folding first (← readOthers fuel flags)

/-- The other alternatives, each behind a bar. -/
def readOthers : Nat → Flags → Reading (List Node)
  | 0, _ => refuse
  | fuel + 1, flags => do
    if ← skip '|' then
      let n ← readSequence fuel flags []
      return n :: (← readOthers fuel flags)
    else return []

/-- Pieces up to a bar, a closing parenthesis or the end; those read so far in reverse. -/
def readSequence : Nat → Flags → List Piece → Reading Node
  | 0, _, _ => refuse
  | fuel + 1, flags, ps => do
    match ← peek with
    | none | some '|' | some ')' => return sequenceOf ps
    | some c =>
      drop 1
      if flags.spaced && isSpacing c then
        readSequence fuel flags ps
      else if flags.spaced && c = '#' then
        let _ ← skipPast '\n'
        readSequence fuel flags ps
      else if c = '\\' then readSequence fuel flags ((← escape flags) :: ps)
      else if c = '[' then
        let negated ← skip '^'
        let items ← setItems flags.ascii ((← get).rest.length + 1) true
        readSequence fuel flags (.item (.ofItems negated flags.folding items) :: ps)
      else if c = '*' then readSequence fuel flags (← repeatHead 0 none ps)
      else if c = '+' then readSequence fuel flags (← repeatHead 1 none ps)
      else if c = '?' then readSequence fuel flags (← repeatHead 0 (some 1) ps)
      else if c = '\x7b' then
        match ← bounds? with
        | some (least, most) => readSequence fuel flags (← repeatHead least most ps)
        | none =>
          readSequence fuel flags (.item (.ofItems false flags.folding [.char c.toNat]) :: ps)
      else if c = '.' then readSequence fuel flags (.item (.any flags.all) :: ps)
      else if c = '^' then
        readSequence fuel flags (.spot (.place (if flags.lines then .lineStart else .start)) :: ps)
      else if c = '$' then
        let p : Place := if flags.lines then .lineStop else .lastStop
        readSequence fuel flags (.spot (.place p) :: ps)
      else if c = '(' then
        enter
        let piece ← readGroup fuel flags
        leave
        readSequence fuel flags (piece.toList ++ ps)
      else readSequence fuel flags (.item (.ofItems false flags.folding [.char c.toNat]) :: ps)

/-- A group behind its opening parenthesis; nothing for a remark. -/
def readGroup : Nat → Flags → Reading (Option Piece)
  | 0, _ => refuse
  | fuel + 1, flags => do
    if !(← skip '?') then
      let index ← openGroup none
      let body ← readChoice fuel flags
      need ')'
      closeGroup index body
      return some (.item (.group index body))
    let c ← take
    if c = 'P' then
      if ← skip '<' then
        let name ← upTo '>'
        if !Text.isName name then refuse
        let index ← openGroup (some (String.ofList name))
        let body ← readChoice fuel flags
        need ')'
        closeGroup index body
        return some (.item (.group index body))
      else if ← skip '=' then
        let name ← upTo ')'
        match (← get).names.lookup (String.ofList name) with
        | none => refuse
        | some index =>
          checkReference index
          return some (.item (.same index flags.folding))
      else refuse
    else if c = ':' then
      let body ← readChoice fuel flags
      need ')'
      return some (.item body)
    else if c = '#' then
      if ← skipPast ')' then return none else refuse
    else if c = '=' || c = '!' then
      let body ← readChoice fuel flags
      need ')'
      return some (.item (.ahead (c = '!') body))
    else if c = '<' then
      let d ← take
      if d ≠ '=' && d ≠ '!' then refuse
      let outer := (← get).behind
      modify fun p => { p with behind := some (outer.getD p.next) }
      let body ← readChoice fuel flags
      modify ({ · with behind := outer })
      need ')'
      let (low, high) := body.width (← get).widths
      if high ≠ some low ∨ maxCount ≤ low then modify ({ · with loose := true })
      else if maxLook ≤ low then modify ({ · with wide := true })
      return some (.item (.behind (d = '!') low body))
    else if c = '(' then
      let name ← upTo ')'
      let index ← conditionGroup name
      checkCondition index
      let yes ← readSequence fuel flags []
      let no ← if ← skip '|' then readSequence fuel flags [] else pure .empty
      need ')'
      return some (.item (.given index yes no))
    else if c = '>' then
      let body ← readChoice fuel flags
      need ')'
      return some (.item (.atomic body))
    else
      modify fun p => { p with rest := c :: p.rest }
      let (on, off) ← flagLetters
      if on.isEmpty && off.isNone then refuse
      need ':'
      if hasBothClasses on || (off.getD []).any on.contains then refuse
      match setFlags true flags on >>= (setFlags false · (off.getD [])) with
      | none => refuse
      | some inner =>
        let body ← readChoice fuel inner
        need ')'
        return some (.item (.repeated 1 (some 1) true body))

end

/-- The letters of the flags that stand for the whole pattern, at its head, and the rest. Remarks
    may stand between them, and blanks behind the flag for them. -/
def leadingFlags : (fuel : Nat) → (letters : List Char) → List Char →
    Option (List Char × List Char)
  | 0, letters, s => some (letters, s)
  | fuel + 1, letters, s =>
    match s with
    | '(' :: '?' :: '#' :: r =>
      match behindFirst ')' r with
      | some (some r) => leadingFlags fuel letters r
      | _ => none
    | '(' :: '?' :: r =>
      let more := r.takeWhile Char.isAlpha
      match r.dropWhile Char.isAlpha with
      | ')' :: r =>
        if more.isEmpty || hasBothClasses more then none else leadingFlags fuel (letters ++ more) r
      | _ => some (letters, s)
    | '#' :: r =>
      if letters.contains 'x' then
        match behindFirst '\n' r with
        | some (some r) => leadingFlags fuel letters r
        | some none => some (letters, [])
        | none => none
      else some (letters, s)
    | c :: r =>
      if letters.contains 'x' && isSpacing c then leadingFlags fuel letters r
      else some (letters, s)
    | [] => some (letters, [])

/-- Groups stand in each other at most this often. -/
def maxDepth : Nat := 485

/-- The pattern that a text stands for. The flag `t` forbids repetition. -/
def read (s : String) : Except Refusal Node := do
  let cs := s.toList
  match leadingFlags (cs.length + 1) [] cs with
  | none => throw .malformed
  | some (letters, cs) =>
    match setFlags true .none (letters.filter (· ≠ 't')) with
    | none => throw .malformed
    | some flags =>
      let start : Progress := ⟨cs, 1, [], [], [], none, [], false, false, false, maxDepth⟩
      let (n, p) ← (readChoice (4 * cs.length + 4) flags).run start
      let clash := hasBothClasses letters || (letters.contains 't' && p.repeats)
      if !p.rest.isEmpty || p.asked.any (p.next ≤ ·) || p.loose || clash then throw .malformed
      else if p.wide then throw .tooWide
      else return n

/-- The pattern that a text stands for, when there is one. -/
def read? (s : String) : Option Node := (read s).toOption

/-- Why the reading of a text breaks off, when it does not end with a pattern or without one. -/
def breakOff? (s : String) : Option Refusal :=
  match read s with
  | .ok _ | .error .malformed => none
  | .error r => some r

end Regen.Pattern
