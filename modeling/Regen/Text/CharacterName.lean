import Regen.Text.CharacterName.Alias
import Regen.Text.CharacterName.Ancient
import Regen.Text.CharacterName.Glyphs
import Regen.Text.CharacterName.Letters
import Regen.Text.CharacterName.Marks
import Regen.Text.CharacterName.Scripts
import Regen.Text.CharacterName.Syllables
import Regen.Text.CharacterName.Symbols

/-!
# Characters by name

A name is found in the tables in either case of its letters. Ideographs are named by their code
point in hexadecimal digits, and a Hangul syllable by the sounds that it is made of.
-/

namespace Regen.Text.CharacterName

/-- How many words two names have in common at the head. -/
def sharedWords : List (List Char) → List (List Char) → Nat
  | a :: as, b :: bs => if a = b then sharedWords as bs + 1 else 0
  | _, _ => 0

/-- The code point of the entry with the given words in a run that starts at `code`; the name in
    front of the run has `matched` words in common with them. -/
def entryNamed? (name : List (List Char)) : (code matched : Nat) → List (List Char) → Option Nat
  | _, _, [] => none
  | code, matched, [] :: r => entryNamed? name (code + 1) matched r
  | code, matched, (d :: rest) :: r =>
    let shared := d.toNat - 48
    if d = '-' ∨ matched < shared then entryNamed? name (code + 1) matched r
    else
      let words := rest.splitOn ' '
      if words = name.drop shared then some code
      else entryNamed? name (code + 1) (shared + sharedWords words (name.drop shared)) r

/-- The code point with the given name in a table of runs. -/
def runNamed? (table : List (Nat × List String)) (name : List Char) : Option Nat :=
  let words := name.splitOn ' '
  table.findSome? fun (first, rows) =>
    entryNamed? words first 0 (rows.flatMap fun row => row.toList.splitOn ';')

def aliasNamed? (name : List Char) : Option Nat :=
  (aliases.find? fun (_, names) => (names.toList.splitOn ';').contains name).map (·.1)

/-- What stands behind the given beginning. -/
def after? (beginning : String) (s : List Char) : Option (List Char) :=
  if beginning.toList.isPrefixOf s then some (s.drop beginning.length) else none

/-- A selector of one of the 256 variants of a character, named by its number. -/
def selectorNamed? (name : List Char) : Option Nat := do
  let ds ← (after? "VS" name).or (after? "VARIATION SELECTOR-" name)
  if ds.head?.all (· = '0') || !ds.all Char.isDigit then none
  let n := ds.foldl (fun v d => v * 10 + (d.toNat - 48)) 0
  if n ≤ 16 then some (0xFDFF + n) else if n ≤ 256 then some (0xE00EF + n) else none

/-! ### Ideographs -/

def unifiedRanges : List (Nat × Nat) :=
  [(0x3400, 0x4DBF), (0x4E00, 0x9FFF), (0x20000, 0x2A6DF), (0x2A700, 0x2B738), (0x2B740, 0x2B81D),
   (0x2B820, 0x2CEA1), (0x2CEB0, 0x2EBE0), (0x30000, 0x3134A)]

def compatibilityRanges : List (Nat × Nat) :=
  [(0xF900, 0xFA6D), (0xFA70, 0xFAD9), (0x2F800, 0x2FA1D)]

/-- The value of a capital hexadecimal digit. -/
def capitalHexDigit? (c : Char) : Option Nat :=
  if '0' ≤ c && c ≤ '9' then some (c.toNat - 48)
  else if 'A' ≤ c && c ≤ 'F' then some (c.toNat - 55)
  else none

/-- The code point that four or five capital hexadecimal digits stand for, when it is in one of
    the ranges. -/
def ideograph? (ranges : List (Nat × Nat)) (ds : List Char) : Option Nat := do
  if ds.length ≠ 4 ∧ ds.length ≠ 5 then none
  let n := (← ds.mapM capitalHexDigit?).foldl (fun v d => v * 16 + d) 0
  if ranges.any fun r => r.1 ≤ n && n ≤ r.2 then some n else none

/-! ### Hangul syllables -/

def leadSounds : List String :=
  ["G", "GG", "N", "D", "DD", "R", "M", "B", "BB", "S", "SS", "", "J", "JJ", "C", "K", "T", "P",
    "H"]

def vowelSounds : List String :=
  ["A", "AE", "YA", "YAE", "EO", "E", "YEO", "YE", "O", "WA", "WAE", "OE", "YO", "U", "WEO", "WE",
   "WI", "YU", "EU", "YI", "I"]

def tailSounds : List String :=
  ["", "G", "GG", "GS", "N", "NJ", "NH", "D", "L", "LG", "LM", "LB", "LS", "LT", "LP", "LH", "M",
   "B", "BS", "S", "SS", "NG", "J", "C", "K", "T", "P", "H"]

/-- The number of the longest sound that a text starts with, and what stands behind it. -/
def soundPrefix? (sounds : List String) (s : List Char) : Option (Nat × List Char) :=
  let found := (sounds.zipIdx.filter fun x => x.1.toList.isPrefixOf s)
  (found.foldl (fun best x => match best with
    | some b => if b.1.length < x.1.length then some x else best
    | none => some x) none).map fun x => (x.2, s.drop x.1.length)

/-- The syllable with the given sounds. -/
def syllable? (s : List Char) : Option Nat := do
  let (lead, s) ← soundPrefix? leadSounds s
  let (vowel, s) ← soundPrefix? vowelSounds s
  let (tail, s) ← soundPrefix? tailSounds s
  if s.isEmpty then some (0xAC00 + (lead * 21 + vowel) * 28 + tail) else none

/-- The tables, those of common characters first. -/
def tables : List (List (Nat × List String)) :=
  [letters, symbols, marks, scripts, syllables, ancient, glyphs]

/-- The code point of the character with the given name. The names of unified ideographs and of
    syllables are written in capitals. -/
def codeNamed? (name : List Char) : Option Nat :=
  match after? "HANGUL SYLLABLE " name, after? "CJK UNIFIED IDEOGRAPH-" name with
  | some s, _ => syllable? s
  | _, some ds => ideograph? unifiedRanges ds
  | none, none =>
    let name := name.map Char.toUpper
    match after? "CJK COMPATIBILITY IDEOGRAPH-" name with
    | some ds => if ds.head? = some '0' then none else ideograph? compatibilityRanges ds
    | none => (aliasNamed? name).or <| (selectorNamed? name).or <|
      tables.findSome? (runNamed? · name)

end Regen.Text.CharacterName
