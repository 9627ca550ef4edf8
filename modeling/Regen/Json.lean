import Regen.Text.Quoted

/-!
# JSON summaries

The values that a summary is made of and their text: two blanks of indentation a level, ASCII
only, with other characters as escapes of their UTF-16 units.
-/

namespace Regen

inductive Json where
  | null
  | text (s : String)
  | list (xs : List Json)
  | object (fields : List (String × Json))

namespace Json

def ofTexts (ss : List String) : Json := list (ss.map text)

def ofText? : Option String → Json
  | none => null
  | some s => text s

/-- The escape of a UTF-16 unit. -/
def unit (n : Nat) : List Char := '\\' :: 'u' :: Text.hexDigits 4 n

/-- How a character is written between quotes. -/
def escaped (c : Char) : List Char :=
  let n := c.toNat
  if n = 0x22 ∨ c = '\\' then ['\\', c]
  else if c = '\n' then ['\\', 'n']
  else if c = '\r' then ['\\', 'r']
  else if c = '\t' then ['\\', 't']
  else if n = 0x08 then ['\\', 'b']
  else if n = 0x0C then ['\\', 'f']
  else if 0x20 ≤ n ∧ n < 0x7F then [c]
  else if n < 0x10000 then unit n
  else unit (0xD800 + (n - 0x10000) / 0x400) ++ unit (0xDC00 + (n - 0x10000) % 0x400)

def quoted (s : String) : String :=
  String.ofList ('"' :: s.toList.flatMap escaped ++ ['"'])

/-- The start of a line at a level. -/
def newLine (level : Nat) : String := "\n" ++ String.ofList (List.replicate (2 * level) ' ')

/-- Items between brackets, each on a line of its own one level further in. -/
def bracketed (opening closing : String) (level : Nat) (items : List String) : String :=
  if items.isEmpty then opening ++ closing
  else
    opening ++ newLine (level + 1) ++ ("," ++ newLine (level + 1)).intercalate items ++
      newLine level ++ closing

mutual

/-- The text of a value whose closing bracket stands at a level. -/
def renderAt (level : Nat) : Json → String
  | null => "null"
  | text s => quoted s
  | list xs => bracketed "[" "]" level (renderList (level + 1) xs)
  | object fs => bracketed "\x7b" "\x7d" level (renderFields (level + 1) fs)

def renderList (level : Nat) : List Json → List String
  | [] => []
  | x :: xs => renderAt level x :: renderList level xs

def renderFields (level : Nat) : List (String × Json) → List String
  | [] => []
  | (k, x) :: fs => (quoted k ++ ": " ++ renderAt level x) :: renderFields level fs

end

def render (j : Json) : String := renderAt 0 j

end Json
end Regen
