import Regen.Text.Integer
import Regen.Text.Surrogate
import Regen.Text.Utf8
import Regen.Yaml.Fault

/-!
# Tokens of a YAML text

Scalars, anchors and tags are tokens, and so are the marks that open, part and close
collections. Block collections have no marks of their own: their tokens come from the columns
at which entries start. A key of a mapping may show only at the colon behind it; the place of
each token that might be such a key is kept, and the token that opens the key is put there
afterwards. Such a key stands on one line and has at most 1024 characters. Where the text cannot
be cut further, a token that holds the fault ends the tokens; a token in front of it counts only
when it is settled whether it is a key.
-/

namespace Regen.Yaml

inductive Token where
  | streamEnd
  | version (major : Nat)
  | tagHandle (handle start : String)
  | otherDirective
  | documentStart
  | documentEnd
  | blockSequenceStart
  | blockMappingStart
  | blockEnd
  | flowSequenceStart
  | flowSequenceEnd
  | flowMappingStart
  | flowMappingEnd
  | blockEntry
  | flowEntry
  | key
  | value
  | alias (name : String)
  | anchor (name : String)
  | tag (handle : Option String) (suffix : String)
  | scalar (text : String) (plain : Bool)
  /-- A quoted scalar by its code points, some of which are surrogates. -/
  | codes (cs : List Nat)
  /-- Here the text cannot be cut further. -/
  | fault (f : Fault)
  deriving DecidableEq

/-- A token that may turn out to be a key. -/
structure KeyPlace where
  /-- The depth of flow collections around it. -/
  level : Nat
  /-- The count of tokens in front of it. -/
  token : Nat
  required : Bool
  index : Nat
  line : Nat
  column : Nat

/-- How far a text has been cut into tokens. -/
structure Scan where
  rest : List Char
  /-- How many characters are left. -/
  left : Nat
  index : Nat
  line : Nat
  column : Nat
  /-- The depth of flow collections. -/
  flow : Nat
  /-- The column of the innermost block collection, and those around it. -/
  indent : Int
  indents : List Int
  keyAllowed : Bool
  keys : List KeyPlace
  /-- The tokens so far, the latest first. -/
  made : List Token
  /-- How many tokens there are so far. -/
  count : Nat
  done : Bool
  counted : left = rest.length ∧ count = made.length

abbrev Scanning := StateT Scan (Except Fault)

/-- Stands for the end of the text, which may not hold it. -/
def endMark : Char := '\x00'

def isBreak (c : Char) : Bool :=
  c = '\r' || c = '\n' || c = '\u0085' || c = '\u2028' || c = '\u2029'

def isBreakOrEnd (c : Char) : Bool := isBreak c || c = endMark

def isGap (c : Char) : Bool := isBreakOrEnd c || c = ' ' || c = '\t'

def isSpaceOrEnd (c : Char) : Bool := isBreakOrEnd c || c = ' '

def isNameChar (c : Char) : Bool := c.isAlphanum || c = '-' || c = '_'

/-- A document holds printable characters, tabs and line breaks. -/
def isAllowed (c : Char) : Bool :=
  let n := c.toNat
  n = 9 || n = 10 || n = 13 || (0x20 ≤ n && n ≤ 0x7E) || n = 0x85 || (0xA0 ≤ n && n ≤ 0xFFFD) ||
    0x10000 ≤ n

namespace Scan

def peekAt (s : Scan) (n : Nat) : Char := s.rest.getD n endMark

/-- One character further. -/
def advance (s : Scan) : Scan :=
  match h : s.rest with
  | [] => s
  | c :: r =>
    let s' := { s with
      rest := r, left := s.left - 1, index := s.index + 1,
      counted := by simp [s.counted.1, h, s.counted.2] }
    if c ≠ '\r' ∧ isBreak c ∨ c = '\r' ∧ r.head? ≠ some '\n' then
      { s' with line := s.line + 1, column := 0 }
    else if c = '\ufeff' then s'
    else { s' with column := s.column + 1 }

def advanceBy : Nat → Scan → Scan
  | 0, s => s
  | n + 1, s => advanceBy n s.advance

/-- The tokens with new ones behind the first `place`. -/
def insert (s : Scan) (place : Nat) (ts : List Token) : Scan :=
  let later := s.count - place
  { s with
    made := s.made.take later ++ ts.reverse ++ s.made.drop later, count := s.count + ts.length,
    counted := by simp [s.counted.1, s.counted.2]; omega }

/-- One token more. -/
def push (s : Scan) (t : Token) : Scan :=
  { s with made := t :: s.made, count := s.count + 1, counted := by simp [s.counted.1, s.counted.2] }

def tokens (s : Scan) : List Token := s.made.reverse

def start (text : List Char) : Scan :=
  ⟨text, text.length, 0, 0, 0, 0, -1, [], true, [], [], 0, false, rfl, rfl⟩

end Scan

namespace Scanning

def peek (n : Nat) : Scanning Char := do return (← get).peekAt n

def forward (n : Nat) : Scanning Unit := modify (Scan.advanceBy n)

/-- The characters at the head that pass the test, skipped. -/
def takeWhile (test : Char → Bool) : Scanning (List Char) := do
  let cs := (← get).rest.takeWhile test
  forward cs.length
  return cs

def emit (t : Token) : Scanning Unit := modify (·.push t)

/-- Skips a line break and gives the character that it stands for. -/
def lineBreak : Scanning (List Char) := do
  let c ← peek 0
  if c = '\u2028' ∨ c = '\u2029' then
    forward 1
    return [c]
  else if isBreak c then
    let crlf := c = '\r' ∧ (← peek 1) = '\n'
    forward (if crlf then 2 else 1)
    return ['\n']
  else return []

/-- A document separator stands here: three marks and a gap. -/
def atSeparator : Scanning Bool := do
  let s ← get
  let three := s.rest.take 3
  return (three = ['-', '-', '-'] ∨ three = ['.', '.', '.']) && isGap (s.peekAt 3)

/-! ### Keys and columns -/

/-- Gives up the places that can be keys no more. -/
def dropStaleKeys : Scanning Unit := do
  let s ← get
  let stale (k : KeyPlace) : Bool := k.line ≠ s.line || 1024 < s.index - k.index
  if s.keys.any fun k => stale k && k.required then throw .colon
  set { s with keys := s.keys.filter fun k => !stale k }

/-- Gives up the place of this level. -/
def dropKey : Scanning Unit := do
  let s ← get
  if s.keys.any fun k => k.level = s.flow && k.required then throw .colon
  set { s with keys := s.keys.filter (·.level ≠ s.flow) }

/-- Notes that the next token may be a key. -/
def noteKey : Scanning Unit := do
  if (← get).keyAllowed then
    dropKey
    modify fun s =>
      let k : KeyPlace :=
        ⟨s.flow, s.count, s.flow = 0 && s.indent = s.column, s.index, s.line, s.column⟩
      { s with keys := k :: s.keys }

def allowKey (b : Bool) : Scanning Unit := modify ({ · with keyAllowed := b })

/-- Closes the block collections that start right of a column. -/
def unwind (column : Int) : Nat → Scanning Unit
  | 0 => return ()
  | fuel + 1 => do
    let s ← get
    if s.flow = 0 ∧ column < s.indent then
      let s := s.push .blockEnd
      set { s with indent := s.indents.headD (-1), indents := s.indents.tail }
      unwind column fuel

def unwindTo (column : Int) : Scanning Unit := do unwind column ((← get).indents.length + 1)

/-- Opens a block collection at a column when it lies right of the innermost one. -/
def indentTo (column : Nat) : Scanning Bool := do
  let s ← get
  if s.indent < column then
    set { s with indents := s.indent :: s.indents, indent := column }
    return true
  else return false

/-! ### Single tokens -/

/-- Ends the line behind a directive or a block scalar header. -/
def restOfLine (fault : Fault) : Scanning Unit := do
  let _ ← takeWhile (· = ' ')
  if (← peek 0) = '#' then
    let _ ← takeWhile (!isBreak ·)
  if !isBreakOrEnd (← peek 0) then throw fault
  let _ ← lineBreak

/-- Exactly `n` hexadecimal digits. -/
def hexNumber (n : Nat) (fault : Fault) : Scanning Nat := do
  let ds := (← get).rest.take n
  match ds.mapM Text.hexDigit? with
  | some vs =>
    if vs.length ≠ n then throw fault
    forward n
    return vs.foldl (fun v d => v * 16 + d) 0
  | none => throw fault

/-- The bytes of consecutive percent escapes. -/
def percentBytes : Nat → Scanning Bytes
  | 0 => return []
  | fuel + 1 => do
    if (← peek 0) = '%' then
      forward 1
      let b ← hexNumber 2 .tag
      return UInt8.ofNat b :: (← percentBytes fuel)
    else return []

def isUriChar (c : Char) : Bool :=
  c.isAlphanum || "-;/?:@&=+$,_.!~*'()[]".toList.contains c

def tagUriParts : Nat → Scanning (List Char)
  | 0 => return []
  | fuel + 1 => do
    let cs ← takeWhile isUriChar
    if (← peek 0) = '%' then
      let bs ← percentBytes (← get).left
      match Text.decodeChars? bs with
      | some ds => return cs ++ ds ++ (← tagUriParts fuel)
      | none => throw .tag
    else return cs

def tagUri : Scanning String := do
  let cs ← tagUriParts ((← get).left + 1)
  if cs.isEmpty then throw .tag
  return String.ofList cs

def tagHandle : Scanning String := do
  if (← peek 0) ≠ '!' then throw .tag
  forward 1
  if (← peek 0) = ' ' then return "!"
  let name ← takeWhile isNameChar
  if (← peek 0) ≠ '!' then throw .tag
  forward 1
  return String.ofList ('!' :: name ++ ['!'])

def number : Scanning Nat := do
  let ds ← takeWhile Char.isDigit
  if ds.isEmpty then throw .directive
  match Text.digits? 10 ds with
  | some n => return n
  | none => throw (.value .badNumber)

def directive : Scanning Token := do
  forward 1
  let name ← takeWhile isNameChar
  if name.isEmpty || !isSpaceOrEnd (← peek 0) then throw .directive
  let t ←
    if name = "YAML".toList then
      let _ ← takeWhile (· = ' ')
      let major ← number
      if (← peek 0) ≠ '.' then throw .directive
      forward 1
      let _ ← number
      if !isSpaceOrEnd (← peek 0) then throw .directive
      pure (Token.version major)
    else if name = "TAG".toList then
      let _ ← takeWhile (· = ' ')
      let handle ← tagHandle
      if (← peek 0) ≠ ' ' then throw .directive
      let _ ← takeWhile (· = ' ')
      let start ← tagUri
      if !isSpaceOrEnd (← peek 0) then throw .directive
      pure (Token.tagHandle handle start)
    else
      let _ ← takeWhile (!isBreak ·)
      pure Token.otherDirective
  restOfLine .directive
  return t

def anchorName : Scanning String := do
  forward 1
  let name ← takeWhile isNameChar
  let c ← peek 0
  if name.isEmpty || !(isGap c || "?:,]\x7d%@\x60".toList.contains c) then throw .anchor
  return String.ofList name

def tag : Scanning Token := do
  let c ← peek 1
  let t ←
    if c = '<' then
      forward 2
      let suffix ← tagUri
      if (← peek 0) ≠ '>' then throw .tag
      forward 1
      pure (Token.tag none suffix)
    else if isGap c then
      forward 1
      pure (Token.tag none "!")
    else
      let body := ((← get).rest.drop 1).takeWhile (!isSpaceOrEnd ·)
      let handle ← if body.contains '!' then tagHandle else do
        forward 1
        pure "!"
      pure (Token.tag (some handle) (← tagUri))
  if !isSpaceOrEnd (← peek 0) then throw .tag
  return t

/-! ### Block scalars -/

/-- What happens to the line breaks at the end of a block scalar. -/
inductive Chomp where
  | strip
  | clip
  | keep
  deriving DecidableEq

def chompMark? : Scanning (Option Chomp) := do
  let c ← peek 0
  if c = '+' then
    forward 1
    return some .keep
  else if c = '-' then
    forward 1
    return some .strip
  else return none

def widthMark? : Scanning (Option Nat) := do
  let c ← peek 0
  if c.isDigit then
    if c = '0' then throw .blockHeader
    forward 1
    return some (c.toNat - 48)
  else return none

def blockHeader : Scanning (Chomp × Option Nat) := do
  let (chomp, width) ← match ← chompMark? with
    | some c => pure (c, ← widthMark?)
    | none => do
      let width ← widthMark?
      let chomp ← if width.isSome then chompMark? else pure none
      pure (chomp.getD .clip, width)
  if !isSpaceOrEnd (← peek 0) then throw .blockHeader
  restOfLine .blockHeader
  return (chomp, width)

/-- The line breaks in front of the first line of a block scalar, and its greatest column. -/
def blockIndent : Nat → (widest : Nat) → Scanning (List Char × Nat)
  | 0, w => return ([], w)
  | fuel + 1, w => do
    let c ← peek 0
    if c = ' ' then
      forward 1
      blockIndent fuel (max w (← get).column)
    else if isBreak c then
      let b ← lineBreak
      let (bs, w) ← blockIndent fuel w
      return (b ++ bs, w)
    else return ([], w)

/-- Skips spaces up to a column. -/
def spacesTo (column : Nat) : Scanning Unit := do
  let s ← get
  forward ((s.rest.take (column - s.column)).takeWhile (· = ' ')).length

/-- The line breaks in front of the next line of a block scalar. -/
def blockBreaks (column : Nat) : Nat → Scanning (List Char)
  | 0 => return []
  | fuel + 1 => do
    spacesTo column
    if isBreak (← peek 0) then
      let b ← lineBreak
      return b ++ (← blockBreaks column fuel)
    else return []

/-- The lines of a block scalar at a column, with `breaks` in front of the first; gives its text
    without the breaks at its end, the last line's break and the breaks behind it. -/
def blockLines (folded : Bool) (column : Nat) :
    Nat → (breaks : List Char) → Scanning (List Char × List Char × List Char)
  | 0, breaks => return ([], [], breaks)
  | fuel + 1, breaks => do
    let s ← get
    if s.column = column ∧ !s.rest.isEmpty then
      let startsSolid := !(s.peekAt 0 = ' ' || s.peekAt 0 = '\t')
      let line ← takeWhile (!isBreak ·)
      let b ← lineBreak
      let next ← blockBreaks column ((← get).left + 1)
      let s ← get
      if s.column = column ∧ !s.rest.isEmpty then
        let goesOn := !(s.peekAt 0 = ' ' || s.peekAt 0 = '\t')
        let join :=
          if folded && b = ['\n'] && startsSolid && goesOn then
            if next.isEmpty then [' '] else []
          else b
        let (text, last, tail) ← blockLines folded column fuel next
        return (breaks ++ line ++ join ++ text, last, tail)
      else return (breaks ++ line, b, next)
    else return ([], [], breaks)

def blockScalar : Scanning Token := do
  let folded := (← peek 0) = '>'
  forward 1
  let (chomp, width) ← blockHeader
  let s ← get
  let least := (max (s.indent + 1) 1).toNat
  let (column, breaks) ← match width with
    | some w => do
      let column := least + w - 1
      pure (column, ← blockBreaks column (s.left + 1))
    | none => do
      let (breaks, widest) ← blockIndent (s.left + 1) 0
      pure (max least widest, breaks)
  let (text, last, tail) ← blockLines folded column (s.left + 1) breaks
  let ending := match chomp with
    | .strip => []
    | .clip => last
    | .keep => last ++ tail
  return .scalar (String.ofList (text ++ ending)) false

/-! ### Quoted and plain scalars -/

/-- The characters that a letter behind a backslash stands for. -/
def escapes : List (Char × Char) :=
  [('0', '\x00'), ('a', '\x07'), ('b', '\x08'), ('t', '\t'), ('\t', '\t'), ('n', '\n'),
   ('v', '\x0b'), ('f', '\x0c'), ('r', '\r'), ('e', '\x1b'), (' ', ' '), ('"', '"'),
   ('\\', '\\'), ('/', '/'), ('N', '\u0085'), ('_', '\u00a0'), ('L', '\u2028'), ('P', '\u2029')]

def escapeWidth? (c : Char) : Option Nat := [('x', 2), ('u', 4), ('U', 8)].lookup c

/-- The line breaks inside a quoted scalar behind its first one. -/
def quotedBreaks : Nat → Scanning (List Char)
  | 0 => return []
  | fuel + 1 => do
    if ← atSeparator then throw .unclosedQuote
    let _ ← takeWhile fun c => c = ' ' || c = '\t'
    if isBreak (← peek 0) then
      let b ← lineBreak
      return b ++ (← quotedBreaks fuel)
    else return []

/-- The text that a line break and those behind it stand for. -/
def folded (first more : List Char) : List Char :=
  if first ≠ ['\n'] then first ++ more else if more.isEmpty then [' '] else more

/-- The single quote. -/
def tick : Char := Char.ofNat 39

/-- The code points of a quoted scalar behind its opening quote, up to and with the closing one. -/
def quotedCodes (quote : Char) : Nat → Scanning (List Nat)
  | 0 => throw .unclosedQuote
  | fuel + 1 => do
    let c ← peek 0
    let double := quote = '"'
    let behind (cs : List Char) : Scanning (List Nat) := do
      return cs.map Char.toNat ++ (← quotedCodes quote fuel)
    if c = quote then
      if !double && (← peek 1) = tick then
        forward 2
        behind [tick]
      else
        forward 1
        return []
    else if c = endMark then throw .unclosedQuote
    else if c = ' ' || c = '\t' || isBreak c then
      let blanks ← takeWhile fun c => c = ' ' || c = '\t'
      if isBreak (← peek 0) then
        let b ← lineBreak
        behind (folded b (← quotedBreaks ((← get).left + 1)))
      else behind blanks
    else if double && c = '\\' then
      forward 1
      let d ← peek 0
      match escapes.lookup d, escapeWidth? d with
      | some e, _ =>
        forward 1
        behind [e]
      | none, some n =>
        forward 1
        let v ← hexNumber n .unknownEscape
        if 0x80000000 ≤ v then throw (.value .overflow)
        if 0x110000 ≤ v then throw (.value .badCode)
        return v :: (← quotedCodes quote fuel)
      | none, none =>
        if isBreak d then
          let _ ← lineBreak
          behind (← quotedBreaks ((← get).left + 1))
        else throw .unknownEscape
    else
      forward 1
      behind [c]

def isFlowMark (c : Char) : Bool := c = ',' || c = '[' || c = ']' || c = '\x7b' || c = '\x7d'

/-- The characters of a plain scalar up to the next gap or mark. -/
def plainRun (flow : Bool) : List Char → List Char
  | [] => []
  | c :: r =>
    let next := r.headD endMark
    if isGap c || (c = ':' && (isGap next || (flow && isFlowMark next))) ||
      (flow && (isFlowMark c || c = '?')) then []
    else c :: plainRun flow r

/-- The breaks behind the first one in a plain scalar; nothing when a document separator ends
    them. -/
def plainBreaks : Nat → Scanning (Option (List Char))
  | 0 => return some []
  | fuel + 1 => do
    if ← atSeparator then return none
    let _ ← takeWhile (· = ' ')
    if isBreak (← peek 0) then
      let b ← lineBreak
      return (← plainBreaks fuel).map (b ++ ·)
    else return some []

/-- The text that stands between two runs of a plain scalar; empty when it ends. -/
def plainGap : Scanning (List Char) := do
  let blanks ← takeWhile (· = ' ')
  if isBreak (← peek 0) then
    let b ← lineBreak
    allowKey true
    match ← plainBreaks ((← get).left + 1) with
    | none => return []
    | some bs => return folded b bs
  else return blanks

/-- The runs of a plain scalar, with `gap` in front of the first. -/
def plainRuns (column : Int) : Nat → (gap : List Char) → Scanning (List Char)
  | 0, _ => return []
  | fuel + 1, gap => do
    let s ← get
    let run := plainRun (s.flow ≠ 0) s.rest
    if s.peekAt 0 = '#' || run.isEmpty then return []
    allowKey false
    forward run.length
    let next ← plainGap
    let s ← get
    if next.isEmpty || s.peekAt 0 = '#' || (s.flow = 0 && s.column < column) then
      return gap ++ run
    else return gap ++ run ++ (← plainRuns column fuel next)

def plainScalar : Scanning Token := do
  let s ← get
  let text ← plainRuns (s.indent + 1) (s.left + 1) []
  return .scalar (String.ofList text) true

/-! ### The next token -/

/-- Skips spaces, remarks and line breaks; a key may stand at the start of a line. -/
def toNextToken : Nat → Scanning Unit
  | 0 => return ()
  | fuel + 1 => do
    let _ ← takeWhile (· = ' ')
    if (← peek 0) = '#' then
      let _ ← takeWhile (!isBreak ·)
    let b ← lineBreak
    if !b.isEmpty then
      if (← get).flow = 0 then allowKey true
      toNextToken fuel

def documentMark (t : Token) : Scanning Unit := do
  unwindTo (-1)
  dropKey
  allowKey false
  forward 3
  emit t

def flowStart (t : Token) : Scanning Unit := do
  noteKey
  modify fun s => { s with flow := s.flow + 1 }
  allowKey true
  forward 1
  emit t

def flowEnd (t : Token) : Scanning Unit := do
  dropKey
  modify fun s => { s with flow := s.flow - 1 }
  allowKey false
  forward 1
  emit t

/-- Opens a block collection here, outside of flow collections. -/
def openBlock (t : Token) : Scanning Unit := do
  let s ← get
  if s.flow = 0 then
    if !s.keyAllowed then throw .place
    if ← indentTo s.column then emit t

def valueMark : Scanning Unit := do
  let s ← get
  match s.keys.find? (·.level = s.flow) with
  | some k =>
    set { s with keys := s.keys.filter (·.level ≠ s.flow) }
    let opens ← if s.flow = 0 then indentTo k.column else pure false
    modify (·.insert k.token (if opens then [.blockMappingStart, .key] else [.key]))
    allowKey false
  | none =>
    openBlock .blockMappingStart
    allowKey (s.flow = 0)
    dropKey
  forward 1
  emit .value

/-- A token that may be a key and is none in front of another one. -/
def keyLike (t : Scanning Token) : Scanning Unit := do
  noteKey
  allowKey false
  emit (← t)

def isPlainStart (s : Scan) : Bool :=
  let c := s.peekAt 0
  !(isGap c || "-?:,[]\x7b\x7d#&*!|>'\"%@\x60".toList.contains c) ||
    (!isGap (s.peekAt 1) && (c = '-' || (s.flow = 0 && (c = '?' || c = ':'))))

def nextToken : Scanning Unit := do
  toNextToken ((← get).left + 1)
  dropStaleKeys
  unwindTo (← get).column
  let s ← get
  let c := s.peekAt 0
  let gap := isGap (s.peekAt 1)
  let separator ← atSeparator
  if c = endMark then
    unwindTo (-1)
    dropKey
    emit .streamEnd
    modify ({ · with done := true })
  else if c = '%' ∧ s.column = 0 then
    unwindTo (-1)
    dropKey
    allowKey false
    emit (← directive)
  else if s.column = 0 ∧ separator then
    documentMark (if c = '-' then .documentStart else .documentEnd)
  else if c = '[' then flowStart .flowSequenceStart
  else if c = '\x7b' then flowStart .flowMappingStart
  else if c = ']' then flowEnd .flowSequenceEnd
  else if c = '\x7d' then flowEnd .flowMappingEnd
  else if c = ',' then
    allowKey true
    dropKey
    forward 1
    emit .flowEntry
  else if c = '-' ∧ gap then
    openBlock .blockSequenceStart
    allowKey true
    dropKey
    forward 1
    emit .blockEntry
  else if c = '?' ∧ (gap ∨ s.flow ≠ 0) then
    openBlock .blockMappingStart
    allowKey (s.flow = 0)
    dropKey
    forward 1
    emit .key
  else if c = ':' ∧ (gap ∨ s.flow ≠ 0) then valueMark
  else if c = '*' then keyLike do return .alias (← anchorName)
  else if c = '&' then keyLike do return .anchor (← anchorName)
  else if c = '!' then keyLike tag
  else if (c = '|' ∨ c = '>') ∧ s.flow = 0 then
    allowKey true
    dropKey
    emit (← blockScalar)
  else if c = tick ∨ c = '"' then
    keyLike do
      forward 1
      let codes ← quotedCodes c (s.left + 1)
      if codes.any Text.isSurrogate then return .codes codes
      return .scalar (String.ofList (codes.map Text.charOfCode)) false
  else if isPlainStart s then keyLike plainScalar
  else throw .token

end Scanning

namespace Scan

/-- The tokens that a later colon cannot turn into keys any more. -/
def settled (s : Scan) : List Token :=
  let open_ := s.keys.filter fun k => k.line = s.line && s.index - k.index ≤ 1024
  s.tokens.take ((open_.map (·.token)).foldl min s.count)

/-- The tokens from here to the end of the text. -/
def tokensWithin : Nat → Scan → List Token
  | 0, s => s.tokens
  | fuel + 1, s =>
    if s.done then s.tokens
    else match Scanning.nextToken.run s with
      | .ok (_, s) => tokensWithin fuel s
      | .error f => s.settled ++ [.fault f]

end Scan

/-- The tokens of a text. -/
def tokens (text : String) : List Token :=
  let cs := text.toList
  if cs.all isAllowed then
    let cs := if cs.head? = some '\ufeff' then cs.drop 1 else cs
    (Scan.start cs).tokensWithin (cs.length + 2)
  else [.fault .character]

end Regen.Yaml
